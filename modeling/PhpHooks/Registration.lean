import PhpHooks.Diagnostic
import PhpHooks.Hook.Registry
import PhpHooks.Source.Call

set_option autoImplicit false

/-!
Checks of calls that register a callback for a hook: which callback the hook expects, and what is
wrong with the call.
-/
namespace PhpHooks

structure Parameter where
  name : Text
  type : UnionType
  byReference : Bool
  optional : Bool

inductive Finding where
  | unknown (hook : Text)
  | mismatch (hook : Text) (expected : HookKind)
  deriving DecidableEq, Repr

namespace Finding

def code : Finding → Text
  | .unknown _ => "HookNotFound".toList
  | .mismatch _ _ => "HookKindMismatch".toList

def message : Finding → Text
  | .unknown hook => "Hook [".toList ++ hook ++ "] not found".toList
  | .mismatch hook expected =>
      "Hook [".toList ++ hook ++
        (if expected.isAction then "] is a filter not an action".toList
          else "] is an action not a filter".toList)

end Finding

namespace Registration

/-- The number of arguments that the callback accepts: the fourth argument if it is an integer,
and one otherwise. -/
def acceptedArguments {ε : Type} (call : Call ε) : Nat :=
  match call.arguments[3]?.bind Argument.int with
  | some n => n.toNat
  | none => 1

/-- What the callback returns: an action's nothing, a filter's its first parameter. -/
def resultType (expected : HookKind) (signature : Signature) : UnionType :=
  if expected.isAction then [.named "void".toList [], .named "null".toList []]
  else signature.parameters.head?.getD UnionType.mixed

/-- The callback that a hook expects of a registration that accepts so many arguments. -/
def callback (expected : HookKind) (signature : Signature) (accepted : Nat) : AtomicType :=
  .callable (signature.parameters.take accepted) (some (resultType expected signature))

def parameters (callback : AtomicType) : List Parameter :=
  let count : UnionType := [.named "int".toList [], .named "null".toList []]
  [⟨"Hook".toList, UnionType.named "string", false, false⟩,
    ⟨"Callback".toList, [callback], false, false⟩,
    ⟨"Priority".toList, count, false, true⟩,
    ⟨"Args".toList, count, false, true⟩]

/-- What a registry says about a call: nothing if it is no registration with a literal hook name,
otherwise a finding or the parameters of the call. -/
def judge {ε : Type} (r : Registry) (call : Call ε) : Option (Except Finding (List Parameter)) :=
  match FunctionName.registration? call.function, call.hook? with
  | some expected, some hook =>
      match r.get? hook with
      | none => some (.error (.unknown hook))
      | some signature =>
          if signature.kind.satisfies expected then
            some (.ok (parameters (callback expected signature (acceptedArguments call))))
          else some (.error (.mismatch hook expected))
  | _, _ => none

/-- Reports a finding at the place of the call, if that is known. -/
def report {ε : Type} (issues : IssueBuffer) (suppressed : List Text) (call : Call ε)
    (finding : Finding) : IssueBuffer × List Event :=
  match call.place with
  | none => (issues, [])
  | some place =>
      let d : Diagnostic := ⟨finding.code, finding.message, place⟩
      (issues.report suppressed d,
        if issues.accepts suppressed d then [.reported d.text] else [.suppressed d.text])

/-- Checks a call: the issues after it, its parameters, none of them if they are unconstrained, and
what happened. -/
def check {ε : Type} (r : Registry) (issues : IssueBuffer) (suppressed : List Text)
    (call : Call ε) : IssueBuffer × Option (List Parameter) × List Event :=
  match judge r call with
  | none => (issues, none, [])
  | some (.ok parameters) => (issues, some parameters, [])
  | some (.error finding) =>
      let (issues, events) := report issues suppressed call finding
      (issues, some [], events)

def callbackOf? (parameters : List Parameter) : Option AtomicType :=
  parameters.findSome? fun parameter =>
    if parameter.name == "Callback".toList then
      match parameter.type with
      | [.callable inputs result] => some (.callable inputs result)
      | _ => none
    else none

end Registration
end PhpHooks
