import PhpHooks.Json.Basic
import PhpHooks.Number.Numeral
import PhpHooks.Source.Node

set_option autoImplicit false

/-!
Syntax trees as JSON documents. A node is an object with its type `t`, its bytes from `s` to `e`,
a mark `a` if it is a bare token, its role `f` and its children `c`.
-/
namespace PhpHooks.Node

/-- A byte offset; anything else counts as zero. -/
def offset : Option JsonValue → Nat
  | some (.number literal) => (Numeral.natural? 10 literal).getD 0
  | _ => 0

mutual

def ofJson : JsonValue → Node
  | .object fields =>
      { type := ((JsonValue.field? ['t'] fields).bind JsonValue.string?).getD []
        start := offset (JsonValue.field? ['s'] fields)
        stop := offset (JsonValue.field? ['e'] fields)
        named := (JsonValue.field? ['a'] fields).isNone
        field := (JsonValue.field? ['f'] fields).bind JsonValue.string?
        children := childrenIn fields }
  | _ => ⟨[], 0, 0, true, none, []⟩
termination_by structural value => value

def childrenIn : List (Text × JsonValue) → List Node
  | [] => []
  | (key, .array elements) :: rest =>
      if key == ['c'] then ofElements elements else childrenIn rest
  | _ :: rest => childrenIn rest
termination_by structural fields => fields

def ofElements : List JsonValue → List Node
  | [] => []
  | value :: rest => ofJson value :: ofElements rest
termination_by structural elements => elements

end

end PhpHooks.Node
