import PhpHooks.Text.Glyph

set_option autoImplicit false

/-!
JSON values. Objects keep their fields in order and may repeat a key; the last field counts. Strings
in which half of a surrogate pair stands alone are kept apart from texts.
-/
namespace PhpHooks

inductive JsonValue where
  | null
  | bool (value : Bool)
  | number (literal : Text)
  | string (value : Text)
  | halved (value : List Glyph)
  | array (elements : List JsonValue)
  | object (fields : List (Text × JsonValue))
  deriving Inhabited

namespace JsonValue

/-- The value of a field, the last one of that key. -/
def field? (key : Text) (fields : List (Text × JsonValue)) : Option JsonValue :=
  fields.reverse.lookup key

/-- The string of these glyphs, which is a text unless there is a half among them. -/
def ofGlyphs (glyphs : List Glyph) : JsonValue :=
  if glyphs.any Glyph.isHalf then .halved glyphs else .string (Glyph.text glyphs)

def string? : JsonValue → Option Text
  | .string value => some value
  | .halved value => some (Glyph.text value)
  | _ => none

def array? : JsonValue → Option (List JsonValue)
  | .array elements => some elements
  | _ => none

def object? : JsonValue → Option (List (Text × JsonValue))
  | .object fields => some fields
  | _ => none

end JsonValue
end PhpHooks
