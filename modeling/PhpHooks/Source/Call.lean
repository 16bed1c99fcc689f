import PhpHooks.Hook.Kind
import PhpHooks.Source.Literal

set_option autoImplicit false

/-!
Function calls: the name of the function and what can be said about each argument. Calls are made
over a type `ε` of expressions, so that they need not come from a syntax tree.
-/
namespace PhpHooks

/-- An argument; there is no expression in a placeholder such as `foo(...)`. -/
structure Argument (ε : Type) where
  expression : Option ε
  text : Text
  name : Option Text
  unpacked : Bool
  string : Option Text
  int : Option Int

/-- A call; the function is known if it is called by its name. -/
structure Call (ε : Type) where
  function : Option Text
  arguments : List (Argument ε)
  place : Option Location

/-- The string literal that the first argument is. -/
def Call.hook? {ε : Type} (call : Call ε) : Option Text :=
  call.arguments.head?.bind Argument.string

namespace Source

def argumentValue? (node : Node) : Option Node :=
  let name? := node.child? "name"
  (node.parts.filter fun child => some child.start != name?.map Node.start).getLast?

def argumentOf (source : Source) (node : Node) : Argument Node :=
  let text := source.textOf node
  if node.isA "argument" then
    let name := (node.child? "name").map source.textOf
    match argumentValue? node with
    | none => ⟨none, text, name, false, none, none⟩
    | some value =>
        if value.isA "variadic_unpacking" then ⟨value.parts.head?, text, name, true, none, none⟩
        else
          ⟨some value, text, name, false, source.stringValue? value, source.intValue? value⟩
  else ⟨none, text, none, false, none, none⟩

def callOf (source : Source) (node : Node) : Call Node :=
  let function :=
    match node.child? "function" with
    | some name =>
        if name.isOneOf ["name", "qualified_name"] then
          some (FunctionName.normalize (source.textOf name))
        else none
    | none => none
  { function
    arguments := ((node.child? "arguments").map Node.parts).getD [] |>.map source.argumentOf
    place := some (source.locationOf node) }

end Source
end PhpHooks
