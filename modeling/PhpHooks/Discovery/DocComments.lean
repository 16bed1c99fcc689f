import PhpHooks.DocBlock.ArrayShape
import PhpHooks.DocBlock.ParamTag
import PhpHooks.Log.Event
import PhpHooks.Source.Walk
import PhpHooks.TypeExpr.Reading

set_option autoImplicit false

/-!
Hooks documented where they are invoked. A documentation comment may stand before the call, or
before the return, the variable or the output that the call directly follows.
-/
namespace PhpHooks

structure DocumentedHook where
  name : Text
  kind : HookKind
  types : List UnionType

namespace DocComments

/-- Whether the comment before such a node may describe a call inside it. -/
def carries (tag : NodeTag) : Bool :=
  tag != .other

/-- The text of the type that a parameter tag documents; a bare array takes the shape that its
description nests. -/
def paramText (param : ParamTag) : Option Text :=
  if param.type == some "array".toList then
    (ArrayShape.ofDescription? param.description).or param.type
  else param.type

section Reading

variable [Stack]

/-- The types of parameters in order, with any type where a parameter has none that is usable. A text
that cannot be read to its end ends the reading. -/
def paramTypes : List ParamTag → List Event × Except ReadingFault (List UnionType)
  | [] => ([], .ok [])
  | param :: rest =>
      let text := paramText param
      match TypeReading.ofText text with
      | .failed cause => ([], .error cause)
      | .usable u =>
          let (events, types) := paramTypes rest
          (events, types.map (u :: ·))
      | .nothing =>
          let (events, types) := paramTypes rest
          (events, types.map (UnionType.mixed :: ·))
      | .dropped cause =>
          let (events, types) := paramTypes rest
          (.typeDropped (text.getD []) cause :: events, types.map (UnionType.mixed :: ·))

/-- The hook that a call with this documentation comment documents. -/
def examine {ε : Type} (call : Call ε) (doc : Text) :
    List Event × Except ReadingFault (Option DocumentedHook) :=
  match FunctionName.invocation? call.function, call.hook? with
  | some kind, some name =>
      match DocBlock.parse doc with
      | .error cause => ([.docIgnored name cause], .ok none)
      | .ok block =>
          match paramTypes block.params with
          | (events, .error cause) => (events, .error cause)
          | (events, .ok []) => (events, .ok none)
          | (events, .ok types) => (events, .ok (some ⟨name, kind, types⟩))
  | _, _ => ([], .ok none)

/-- The hooks with `hook` under its name: in its place if the name is there, else at the end. -/
def put (hook : DocumentedHook) : List DocumentedHook → List DocumentedHook
  | [] => [hook]
  | other :: rest => if other.name == hook.name then hook :: rest else other :: put hook rest

/-- The hooks found so far, and the comment that may still belong to the next call. -/
structure State where
  pending : Option Text
  hooks : List DocumentedHook

def State.initial : State := ⟨none, []⟩

/-- The comment pending when a node is reached: its own if it carries one; otherwise the earlier
one stays before a call only. -/
def pendingAt {ε : Type} (pending : Option Text) (visit : Visit ε) : Option Text :=
  let own := visit.doc.filter fun doc => !doc.isEmpty && carries visit.tag
  own.or (if visit.tag = .call then pending else none)

/-- The state after a node, what happened, and what was met that cannot be read to its end. A call
uses the pending comment up. -/
def step {ε : Type} (s : State) (visit : Visit ε) : State × List Event × Option ReadingFault :=
  let pending := pendingAt s.pending visit
  match pending, visit.tag, visit.call with
  | some doc, .call, some call =>
      match examine call doc with
      | (events, .error cause) => (⟨none, s.hooks⟩, events, some cause)
      | (events, .ok none) => (⟨none, s.hooks⟩, events, none)
      | (events, .ok (some hook)) => (⟨none, put hook s.hooks⟩, events, none)
  | _, _, _ => (⟨pending, s.hooks⟩, [], none)

def collectFrom {ε : Type} :
    State → List (Visit ε) → List Event × Except ReadingFault (List DocumentedHook)
  | s, [] => ([], .ok s.hooks)
  | s, visit :: rest =>
      match step s visit with
      | (_, events, some cause) => (events, .error cause)
      | (next, events, none) =>
          let (later, hooks) := collectFrom next rest
          (events ++ later, hooks)

/-- The documented hooks of a source's nodes, one for each name: in the order in which the names
are first found, with what the last call of the name says. -/
def collect {ε : Type} (visits : List (Visit ε)) :
    List Event × Except ReadingFault (List DocumentedHook) :=
  collectFrom State.initial visits

end Reading

end DocComments
end PhpHooks
