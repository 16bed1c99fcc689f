import PhpHooks.Source.Literal
import PhpHooks.Text.Blank
import PhpHooks.TypeExpr.Basic

set_option autoImplicit false

/-!
Types that are evident from the form of an expression: literals, arrays, new objects,
concatenations and casts. Anything else is unknown.
-/
namespace PhpHooks.Source

def castTypes : List (Text × String) :=
  [("int".toList, "int"), ("integer".toList, "int"), ("bool".toList, "bool"),
    ("boolean".toList, "bool"), ("float".toList, "float"), ("double".toList, "float"),
    ("real".toList, "float"), ("string".toList, "string"), ("binary".toList, "string"),
    ("array".toList, "array"), ("object".toList, "object")]

/-- The class of a new object, or any object. -/
def objectType (source : Source) (node : Node) : UnionType :=
  match node.namedChildren.find? fun child => child.isOneOf ["name", "qualified_name"] with
  | some child => [.named ((source.textOf child).dropWhile (· == '\\')) []]
  | none => UnionType.named "object"

def castType? (source : Source) (node : Node) : Option UnionType := do
  let cast ← node.namedChildren.find? fun child => child.isA "cast_type"
  let name ← castTypes.lookup (Text.lower (Text.trim (source.textOf cast)))
  return UnionType.named name

def plainType? (source : Source) (node : Node) : Option UnionType :=
  if node.isOneOf ["string", "encapsed_string"] then
    match source.stringValue? node with
    | some value => some [.literal (.string value)]
    | none => some (UnionType.named "string")
  else if node.isOneOf ["heredoc", "nowdoc"] then some (UnionType.named "string")
  else if node.isA "integer" then
    match source.intValue? node with
    | some value => some [.literal (.int value)]
    | none => some (UnionType.named "int")
  else if node.isA "float" then
    match Double.read? (Text.without '_' (source.textOf node)) with
    | some value => some [.literal (.float value)]
    | none => some (UnionType.named "float")
  else if node.isA "boolean" then
    some [.literal (.bool (Text.lower (source.textOf node) == "true".toList))]
  else if node.isA "null" then some (UnionType.named "null")
  else if node.isA "array_creation_expression" then some (UnionType.named "array")
  else if node.isA "object_creation_expression" then some (source.objectType node)
  else if node.isA "binary_expression" then
    match node.child? "operator" with
    | some operator =>
        if source.textOf operator == ['.'] then some (UnionType.named "string") else none
    | none => none
  else if node.isA "cast_expression" then source.castType? node
  else none

mutual

def evidentType? (source : Source) : Node → Option UnionType
  | ⟨type, start, stop, named, field, children⟩ =>
      if type == "parenthesized_expression".toList then evidentFirst? source children
      else source.plainType? ⟨type, start, stop, named, field, children⟩
termination_by structural node => node

def evidentFirst? (source : Source) : List Node → Option UnionType
  | [] => none
  | child :: rest =>
      if child.named && !child.isA "comment" then evidentType? source child
      else evidentFirst? source rest
termination_by structural children => children

end

end PhpHooks.Source
