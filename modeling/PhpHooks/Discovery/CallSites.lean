import PhpHooks.Corpus.Loading
import PhpHooks.Source.Call

set_option autoImplicit false

/-!
Hooks inferred from the arguments of the calls that invoke them.
-/
namespace PhpHooks.CallSites

/-- The widened type of an argument, or any type if it is unknown. -/
def argumentType {ε : Type} (typeOf : ε → Option UnionType) (argument : Argument ε) : UnionType :=
  match argument.expression.bind typeOf with
  | some u => u.widen
  | none => UnionType.mixed

/-- The hook that a call invokes and its parameter types, unless the hook is registered. -/
def inferred? {ε : Type} (typeOf : ε → Option UnionType) (r : Registry) (call : Call ε) :
    Option (HookKind × Text × List UnionType) :=
  match FunctionName.invocation? call.function, call.hook? with
  | some kind, some name =>
      if r.contains name then none
      else some (kind, name, (call.arguments.drop 1).map (argumentType typeOf))
  | _, _ => none

def infer {ε : Type} (typeOf : ε → Option UnionType) (r : Registry) (call : Call ε) :
    Registry × Option Signature × List Event :=
  match inferred? typeOf r call with
  | none => (r, none, [])
  | some (kind, name, types) =>
      let (registry, signature) := r.register name kind (types.map some)
      (registry, some signature,
        .inferred kind name call.place :: Corpus.registrationEvents r name kind types.length)

end PhpHooks.CallSites
