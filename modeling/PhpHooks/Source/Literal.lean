import PhpHooks.Number.Numeral
import PhpHooks.Source.Basic
import PhpHooks.Text.Lowercase

set_option autoImplicit false

/-!
Literals in PHP sources: the strings and integers that they stand for.
-/
namespace PhpHooks.Source

/-- In single quotes a backslash escapes itself and the quote, and stands for itself elsewhere. -/
def unescapeSingle : Text → Text
  | '\\' :: c :: rest =>
      if c == '\\' || c == '\'' then c :: unescapeSingle rest
      else '\\' :: unescapeSingle (c :: rest)
  | c :: rest => c :: unescapeSingle rest
  | [] => []

/-- What a backslash and `c` stand for in double quotes; without a meaning both stay. -/
def escapeMeaning (c : Char) : Text :=
  if c == 'n' then ['\n']
  else if c == 't' then ['\t']
  else if c == 'r' then ['\r']
  else if c == 'v' then ['\x0b']
  else if c == 'e' then ['\x1b']
  else if c == 'f' then ['\x0c']
  else if c == '\\' || c == '$' || c == '"' then [c]
  else ['\\', c]

/-- In double quotes a backslash takes the next character with it, unless that is a line feed. -/
def unescapeDouble : Text → Text
  | '\\' :: c :: rest =>
      if c == '\n' then '\\' :: c :: unescapeDouble rest
      else escapeMeaning c ++ unescapeDouble rest
  | c :: rest => c :: unescapeDouble rest
  | [] => []

/-- What stands between two marks, after an optional `b` in front of the first. -/
def between? (mark : Char) (t : Text) : Option Text :=
  let t :=
    match t with
    | c :: rest => if c == 'b' || c == 'B' then rest else t
    | [] => t
  match t with
  | first :: rest =>
      if first == mark && rest.getLast? == some mark then some rest.dropLast else none
  | [] => none

/-- The nodes that may stand inside a double-quoted string without interpolation. -/
def stringParts : List String :=
  ["string_content", "string_value", "escape_sequence"]

/-- The value of a string literal without interpolation. -/
def stringValue? (source : Source) (node : Node) : Option Text :=
  if node.isA "string" then (between? '\'' (source.textOf node)).map unescapeSingle
  else if node.isA "encapsed_string" then
    if node.namedChildren.any fun child => !child.isOneOf stringParts then none
    else (between? '"' (source.textOf node)).map unescapeDouble
  else none

/-- A decimal integer, with padding around it, a sign in front, and not too many digits. -/
def decimal? (t : Text) : Option Int :=
  let (negative, digits) := Numeral.splitSign (Numeral.trimPadding t)
  if Numeral.maxDigits < digits.length then none
  else (Numeral.natural? 10 digits).map (Numeral.signed negative)

/-- The number that digits behind a base mark spell, with padding after them. -/
def marked? (base : Nat) (digits : Text) : Option Int :=
  (Numeral.natural? base (Numeral.trimPaddingEnd digits)).map Int.ofNat

/-- The number that an integer literal spells: hexadecimal, binary or octal behind a mark, octal
behind a zero, otherwise decimal. Underscores do not count. -/
def integer? (t : Text) : Option Int :=
  match Text.lower (Text.without '_' t) with
  | '0' :: 'x' :: digits => marked? 16 digits
  | '0' :: 'b' :: digits => marked? 2 digits
  | '0' :: 'o' :: digits => marked? 8 digits
  | '0' :: c :: digits => marked? 8 ('0' :: c :: digits)
  | digits => decimal? digits

def intValue? (source : Source) (node : Node) : Option Int :=
  if node.isA "integer" then integer? (source.textOf node) else none

end PhpHooks.Source
