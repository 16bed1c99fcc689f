import PhpHooks.Text.Quoted

set_option autoImplicit false

/-!
Texts in which halves of surrogate pairs may stand alone, as escapes can produce them.
-/
namespace PhpHooks

/-- A character, or half of a surrogate pair, with its code. -/
inductive Glyph where
  | char (c : Char)
  | half (code : Nat)
  deriving DecidableEq, Repr

namespace Glyph

/-- The glyph of a code, if there is a character or a half with that code. -/
def ofCode? (code : Nat) : Option Glyph :=
  if 0xd800 ≤ code && code ≤ 0xdfff then some (.half code)
  else if code < 0x110000 then some (.char (Char.ofNat code))
  else none

def isHalf : Glyph → Bool
  | .char _ => false
  | .half _ => true

def ofText (t : Text) : List Glyph :=
  t.map .char

/-- The character that two halves in this order make. -/
def pair? (first second : Nat) : Option Char :=
  if first ≤ 0xdbff && 0xdc00 ≤ second then
    some (Char.ofNat (0x10000 + (first - 0xd800) * 0x400 + (second - 0xdc00)))
  else none

/-- The text of glyphs. Two halves that meet in order make a character; a half without its other
half is the replacement character. -/
def text : List Glyph → Text
  | [] => []
  | .char c :: rest => c :: text rest
  | .half first :: .half second :: rest =>
      match pair? first second with
      | some c => c :: text rest
      | none => Char.ofNat 0xfffd :: text (.half second :: rest)
  | .half _ :: rest => Char.ofNat 0xfffd :: text rest

def escapeQuoted (mark : Char) : Glyph → Text
  | .char c => Text.escapeQuoted mark c
  | .half code => '\\' :: 'u' :: Text.hexPadded 4 code

def quoted (glyphs : List Glyph) : Text :=
  let mark := Text.quoteMark (text glyphs)
  mark :: glyphs.flatMap (escapeQuoted mark) ++ [mark]

end Glyph
end PhpHooks
