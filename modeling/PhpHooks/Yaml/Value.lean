import PhpHooks.Number.Arithmetic
import PhpHooks.Number.Shortest
import PhpHooks.Text.Glyph
import PhpHooks.Yaml.Calendar

set_option autoImplicit false

/-!
Values of YAML documents and their text in messages.
-/
namespace PhpHooks

inductive Yaml where
  | null
  | bool (value : Bool)
  | int (value : Int)
  | float (value : Double)
  | day (value : Day)
  | moment (value : Moment)
  | string (value : List Glyph)
  | sequence (elements : List Yaml)
  | mapping (fields : List (Yaml × Yaml))
  deriving Inhabited

namespace Yaml

def ofText (t : Text) : Yaml :=
  .string (Glyph.ofText t)

def field? (key : String) : List (Yaml × Yaml) → Option Yaml
  | [] => none
  | (.string name, value) :: rest =>
      if name == Glyph.ofText key.toList then some value else field? key rest
  | _ :: rest => field? key rest

/-- The integer that a key stands for; truth values are integers too. -/
def int? : Yaml → Option Int
  | .bool value => some (if value then 1 else 0)
  | .int value => some value
  | _ => none

/-- Whether two keys are one: numbers are compared as numbers, texts as texts. -/
def sameKey : Yaml → Yaml → Bool
  | .null, .null => true
  | .string s, .string t => s == t
  | .day a, .day b => a == b
  | .moment a, .moment b => a.same b
  | .float x, .float y => x.same y
  | .float x, b => (b.int?.map fun n => x.isInt n).getD false
  | a, .float y => (a.int?.map fun n => y.isInt n).getD false
  | a, b => a.int?.isSome && a.int? == b.int?

/-- The fields with one more: a key that is there keeps its place and takes the new value. -/
def putField (key value : Yaml) : List (Yaml × Yaml) → List (Yaml × Yaml)
  | [] => [(key, value)]
  | (other, old) :: rest =>
      if other.sameKey key then (other, value) :: rest else (other, old) :: putField key value rest

def distinctFields (fields : List (Yaml × Yaml)) : List (Yaml × Yaml) :=
  fields.foldl (fun known (key, value) => putField key value known) []

def boolText (value : Bool) : Text :=
  if value then "True".toList else "False".toList

/-- The glyphs of a text or of the text of a number or a truth value. -/
def glyphs? : Yaml → Except Numeral.Overflow (Option (List Glyph))
  | .string value => .ok (some value)
  | .int value => (Numeral.write value).map fun t => some (Glyph.ofText t)
  | .float value => .ok (some (Glyph.ofText value.toText))
  | .bool value => .ok (some (Glyph.ofText (boolText value)))
  | _ => .ok none

/-- Whether a value counts as nothing: null, false, zero or empty. -/
def isEmpty : Yaml → Bool
  | .null => true
  | .bool value => !value
  | .int value => value == 0
  | .float value => value.isZero
  | .day _ => false
  | .moment _ => false
  | .string value => value.isEmpty
  | .sequence elements => elements.isEmpty
  | .mapping fields => fields.isEmpty

mutual

def text : Yaml → Except Numeral.Overflow Text
  | .null => .ok "None".toList
  | .string value => .ok (Glyph.quoted value)
  | .sequence elements =>
      (elementTexts elements).map fun parts => '[' :: Text.joined [',', ' '] parts ++ [']']
  | .mapping fields =>
      (fieldTexts fields).map fun parts => '\x7b' :: Text.joined [',', ' '] parts ++ ['\x7d']
  | .bool value => .ok (boolText value)
  | .int value => Numeral.write value
  | .float value => .ok value.toText
  | .day value => .ok value.text
  | .moment value => .ok value.text
termination_by structural value => value

def elementTexts : List Yaml → Except Numeral.Overflow (List Text)
  | [] => .ok []
  | value :: rest => do
      let first ← value.text
      let others ← elementTexts rest
      return first :: others
termination_by structural elements => elements

def fieldTexts : List (Yaml × Yaml) → Except Numeral.Overflow (List Text)
  | [] => .ok []
  | (key, value) :: rest => do
      let name ← key.text
      let content ← value.text
      let others ← fieldTexts rest
      return (name ++ ':' :: ' ' :: content) :: others
termination_by structural fields => fields

end

end Yaml
end PhpHooks
