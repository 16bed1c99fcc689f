import PhpHooks.Number.Shortest
import PhpHooks.TypeExpr.Basic

set_option autoImplicit false

/-!
The text of a type.
-/
namespace PhpHooks

def Literal.escape (c : Char) : Text :=
  if c == '\\' || c == '\'' then ['\\', c] else [c]

/-- Strings stand in single quotes, numbers and truth values as themselves. -/
def Literal.text : Literal → Text
  | .string value => '\'' :: value.flatMap escape ++ ['\'']
  | .int value => Text.ofInt value
  | .float value => value.toText
  | .bool true => "true".toList
  | .bool false => "false".toList

mutual

def AtomicType.text : AtomicType → Text
  | .named name arguments =>
      if arguments.isEmpty then name
      else name ++ '<' :: Text.joined [',', ' '] (unionTexts arguments) ++ ['>']
  | .literal value => value.text
  | .shape name items => name ++ '\x7b' :: Text.joined [',', ' '] (itemTexts items) ++ ['\x7d']
  | .callable parameters result =>
      "callable(".toList ++ Text.joined [',', ' '] (unionTexts parameters) ++ ')' ::
        resultText result
termination_by structural atom => atom

def memberTexts : List AtomicType → List Text
  | [] => []
  | a :: rest => a.text :: memberTexts rest
termination_by structural members => members

def unionTexts : List (List AtomicType) → List Text
  | [] => []
  | u :: rest => Text.joined ['|'] (memberTexts u) :: unionTexts rest
termination_by structural unions => unions

def itemTexts : List ShapeItem → List Text
  | [] => []
  | ⟨key, type, optional⟩ :: rest =>
      (key ++ (if optional then ['?'] else []) ++ ':' :: ' ' ::
        Text.joined ['|'] (memberTexts type)) :: itemTexts rest
termination_by structural items => items

def resultText : Option (List AtomicType) → Text
  | none => []
  | some u => ':' :: ' ' :: Text.joined ['|'] (memberTexts u)
termination_by structural result => result

end

def UnionType.text (u : UnionType) : Text :=
  Text.joined ['|'] (memberTexts u)

end PhpHooks
