import PhpHooks.Json.Basic
import PhpHooks.Number.Numeral
import PhpHooks.Text.Word

set_option autoImplicit false

/-!
Reading JSON texts. The names `NaN`, `Infinity` and `-Infinity` count as numbers.
-/
namespace PhpHooks

/-- A text is no JSON document, or an integer in it has too many digits. -/
inductive JsonFault where
  | malformed
  | overflow (cause : Numeral.Overflow)
  deriving DecidableEq, Repr

namespace JsonReader

def isSpace (c : Char) : Bool :=
  c == ' ' || c == '\t' || c == '\n' || c == '\r'

def skipSpace (t : Text) : Text :=
  t.dropWhile isSpace

def hexDigit? (c : Char) : Option Nat :=
  if '0' ≤ c && c ≤ '9' then some (c.toNat - 48)
  else if 'a' ≤ c && c ≤ 'f' then some (c.toNat - 87)
  else if 'A' ≤ c && c ≤ 'F' then some (c.toNat - 55)
  else none

def hexUnit? : Text → Option (Nat × Text)
  | a :: b :: c :: d :: rest =>
      match hexDigit? a, hexDigit? b, hexDigit? c, hexDigit? d with
      | some w, some x, some y, some z => some (((w * 16 + x) * 16 + y) * 16 + z, rest)
      | _, _, _, _ => none
  | _ => none

def escapeLetter? (c : Char) : Option Char :=
  if c == '"' || c == '\\' || c == '/' then some c
  else if c == 'b' then some '\x08'
  else if c == 'f' then some '\x0c'
  else if c == 'n' then some '\n'
  else if c == 'r' then some '\r'
  else if c == 't' then some '\t'
  else none

/-- The second half of a pair, if a text begins with its escape. -/
def secondHalf? : Text → Option (Nat × Text)
  | '\\' :: 'u' :: digits =>
      (hexUnit? digits).filter fun (unit, _) => 0xdc00 ≤ unit && unit ≤ 0xdfff
  | _ => none

/-- The glyph of an escaped unit. A first half takes the second with it if that follows; any other
half stands alone. -/
def unitGlyph (unit : Nat) (rest : Text) : Glyph × Text :=
  if 0xd800 ≤ unit && unit ≤ 0xdbff then
    match secondHalf? rest with
    | some (second, after) =>
        (.char (Char.ofNat (0x10000 + (unit - 0xd800) * 0x400 + (second - 0xdc00))), after)
    | none => (.half unit, rest)
  else if 0xdc00 ≤ unit && unit ≤ 0xdfff then (.half unit, rest)
  else (.char (Char.ofNat unit), rest)

/-- The rest of a string up to its closing mark. Control characters may not stand in it. The text's
length bounds the search. -/
def stringTail? : Nat → Text → Option (List Glyph × Text)
  | 0, _ => none
  | _ + 1, [] => none
  | bound + 1, c :: rest =>
      if c == '"' then some ([], rest)
      else if c.toNat < 0x20 then none
      else if c == '\\' then
        match rest with
        | 'u' :: digits =>
            (hexUnit? digits).bind fun (unit, after) =>
              let (glyph, after) := unitGlyph unit after
              (stringTail? bound after).map fun (tail, after) => (glyph :: tail, after)
        | letter :: after =>
            (escapeLetter? letter).bind fun char =>
              (stringTail? bound after).map fun (tail, after) => (.char char :: tail, after)
        | [] => none
      else (stringTail? bound rest).map fun (tail, after) => (.char c :: tail, after)

/-- The whole part of a number: a single zero, or digits that begin with another one. -/
def wholePart? : Text → Option (Text × Text)
  | '0' :: rest => some (['0'], rest)
  | c :: rest =>
      if Text.isAsciiDigit c then
        some (c :: rest.takeWhile Text.isAsciiDigit, rest.dropWhile Text.isAsciiDigit)
      else none
  | [] => none

/-- The fraction at the beginning of a text, if a digit follows the point. -/
def fractionPart : Text → Text × Text
  | '.' :: rest =>
      let digits := rest.takeWhile Text.isAsciiDigit
      if digits.isEmpty then ([], '.' :: rest)
      else ('.' :: digits, rest.dropWhile Text.isAsciiDigit)
  | t => ([], t)

/-- The exponent at the beginning of a text, if it has a digit. -/
def powerPart : Text → Text × Text
  | [] => ([], [])
  | c :: rest =>
      if c == 'e' || c == 'E' then
        let (sign, unsigned) :=
          match rest with
          | '+' :: more => (['+'], more)
          | '-' :: more => (['-'], more)
          | _ => ([], rest)
        let digits := unsigned.takeWhile Text.isAsciiDigit
        if digits.isEmpty then ([], c :: rest)
        else (c :: sign ++ digits, unsigned.dropWhile Text.isAsciiDigit)
      else ([], c :: rest)

/-- A number with what follows it. An integer may not have more digits than can be read. -/
def number (t : Text) : Except JsonFault (JsonValue × Text) :=
  let (sign, unsigned) :=
    match t with
    | '-' :: rest => (['-'], rest)
    | _ => ([], t)
  match wholePart? unsigned with
  | none => .error .malformed
  | some (whole, rest) =>
      let (fraction, rest) := fractionPart rest
      let (power, rest) := powerPart rest
      if fraction.isEmpty && power.isEmpty && Numeral.maxDigits < whole.length then
        .error (.overflow (.reading whole.length))
      else .ok (.number (sign ++ whole ++ fraction ++ power), rest)

def words : List (Text × JsonValue) :=
  [("null".toList, .null), ("true".toList, .bool true), ("false".toList, .bool false),
    ("NaN".toList, .number "NaN".toList), ("Infinity".toList, .number "Infinity".toList),
    ("-Infinity".toList, .number "-Infinity".toList)]

def word? (t : Text) : Option (JsonValue × Text) :=
  (words.find? fun entry => Text.startsWith t entry.1).map fun (word, value) =>
    (value, t.drop word.length)

def string (t : Text) : Except JsonFault (List Glyph × Text) :=
  match stringTail? (t.length + 1) t with
  | some result => .ok result
  | none => .error .malformed

mutual

/-- A value at the beginning of a text. The first argument bounds the depth of the recursion;
`parse` gives a bound that no document reaches. -/
def value : Nat → Text → Except JsonFault (JsonValue × Text)
  | 0, _ => .error .malformed
  | _ + 1, [] => .error .malformed
  | bound + 1, c :: rest =>
      if c == '"' then do
        let (glyphs, rest) ← string rest
        return (.ofGlyphs glyphs, rest)
      else if c == '[' then
        match skipSpace rest with
        | ']' :: after => .ok (.array [], after)
        | inner => do
            let (elements, rest) ← elements bound inner
            return (.array elements, rest)
      else if c == '\x7b' then
        match skipSpace rest with
        | '\x7d' :: after => .ok (.object [], after)
        | inner => do
            let (fields, rest) ← fields bound inner
            return (.object fields, rest)
      else
        match word? (c :: rest) with
        | some result => .ok result
        | none => number (c :: rest)

def elements : Nat → Text → Except JsonFault (List JsonValue × Text)
  | 0, _ => .error .malformed
  | bound + 1, t => do
      let (first, rest) ← value bound t
      match skipSpace rest with
      | ']' :: after => return ([first], after)
      | ',' :: after => do
          let (others, rest) ← elements bound (skipSpace after)
          return (first :: others, rest)
      | _ => .error .malformed

/-- The fields of an object up to and with its closing brace. No key that is asked for has a half
of a pair in it, so the keys are texts. -/
def fields : Nat → Text → Except JsonFault (List (Text × JsonValue) × Text)
  | 0, _ => .error .malformed
  | bound + 1, '"' :: t => do
      let (glyphs, rest) ← string t
      match skipSpace rest with
      | ':' :: after => do
          let (first, rest) ← value bound (skipSpace after)
          match skipSpace rest with
          | '\x7d' :: after => return ([(Glyph.text glyphs, first)], after)
          | ',' :: after => do
              let (others, rest) ← fields bound (skipSpace after)
              return ((Glyph.text glyphs, first) :: others, rest)
          | _ => .error .malformed
      | _ => .error .malformed
  | _ + 1, _ => .error .malformed

end

end JsonReader

def JsonValue.parse (t : Text) : Except JsonFault JsonValue :=
  match JsonReader.value (2 * t.length + 2) (JsonReader.skipSpace t) with
  | .error fault => .error fault
  | .ok (value, rest) =>
      if (JsonReader.skipSpace rest).isEmpty then .ok value else .error .malformed

end PhpHooks
