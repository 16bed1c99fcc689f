import PhpHooks.Json.Basic
import PhpHooks.Text.Quoted

set_option autoImplicit false

/-!
JSON texts in ASCII, with one element or field on a line of its own.
-/
namespace PhpHooks.JsonValue

def unitEscape (unit : Nat) : Text :=
  '\\' :: 'u' :: Text.hexPadded 4 unit

/-- One character inside a string. Beyond ASCII it is escaped, as two halves if it is wide. -/
def escape (c : Char) : Text :=
  if c == '"' || c == '\\' then ['\\', c]
  else if c == '\n' then ['\\', 'n']
  else if c == '\r' then ['\\', 'r']
  else if c == '\t' then ['\\', 't']
  else if c == '\x08' then ['\\', 'b']
  else if c == '\x0c' then ['\\', 'f']
  else if 0x20 ≤ c.toNat && c.toNat < 0x7f then [c]
  else if c.toNat < 0x10000 then unitEscape c.toNat
  else
    unitEscape (0xd800 + (c.toNat - 0x10000) / 0x400) ++
      unitEscape (0xdc00 + (c.toNat - 0x10000) % 0x400)

def stringText (t : Text) : Text :=
  '"' :: t.flatMap escape ++ ['"']

def escapeGlyph : Glyph → Text
  | .char c => escape c
  | .half code => unitEscape code

/-- The parts on lines of their own between brackets, two spaces deeper than the brackets. -/
def bracketed (depth : Nat) (opening closing : Char) (parts : List Text) : Text :=
  if parts.isEmpty then [opening, closing]
  else
    let indent := List.replicate (2 * depth + 2) ' '
    opening :: '\n' :: indent ++ Text.joined (',' :: '\n' :: indent) parts ++
      '\n' :: List.replicate (2 * depth) ' ' ++ [closing]

mutual

def textAt (depth : Nat) : JsonValue → Text
  | .null => "null".toList
  | .bool true => "true".toList
  | .bool false => "false".toList
  | .number literal => literal
  | .string value => stringText value
  | .halved value => '"' :: value.flatMap escapeGlyph ++ ['"']
  | .array elements => bracketed depth '[' ']' (elementTexts (depth + 1) elements)
  | .object fields => bracketed depth '\x7b' '\x7d' (fieldTexts (depth + 1) fields)
termination_by structural value => value

def elementTexts (depth : Nat) : List JsonValue → List Text
  | [] => []
  | value :: rest => value.textAt depth :: elementTexts depth rest
termination_by structural elements => elements

def fieldTexts (depth : Nat) : List (Text × JsonValue) → List Text
  | [] => []
  | (key, value) :: rest =>
      (stringText key ++ ':' :: ' ' :: value.textAt depth) :: fieldTexts depth rest
termination_by structural fields => fields

end

def pretty (value : JsonValue) : Text :=
  value.textAt 0

end PhpHooks.JsonValue
