import PhpHooks.Text.Printable

set_option autoImplicit false

/-!
Quoted text for messages. Single quotes are used unless the text holds one and no double quote.
-/
namespace PhpHooks.Text

/-- The lower-case hexadecimal numeral of `n`, padded with zeros to `width`. -/
def hexPadded (width n : Nat) : Text :=
  let digits := Nat.toDigits 16 n
  List.replicate (width - digits.length) '0' ++ digits

def codeEscape (c : Char) : Text :=
  if c.toNat < 0x100 then '\\' :: 'x' :: hexPadded 2 c.toNat
  else if c.toNat < 0x10000 then '\\' :: 'u' :: hexPadded 4 c.toNat
  else '\\' :: 'U' :: hexPadded 8 c.toNat

def escapeQuoted (mark c : Char) : Text :=
  if c == '\\' || c == mark then ['\\', c]
  else if c == '\n' then ['\\', 'n']
  else if c == '\r' then ['\\', 'r']
  else if c == '\t' then ['\\', 't']
  else if isPrintable c then [c]
  else codeEscape c

/-- The quotation mark that `t` is written between. -/
def quoteMark (t : Text) : Char :=
  if t.contains '\'' && !t.contains '"' then '"' else '\''

/-- `t` between quotation marks, with what cannot stand as itself escaped. -/
def quoted (t : Text) : Text :=
  let mark := quoteMark t
  mark :: t.flatMap (escapeQuoted mark) ++ [mark]

end PhpHooks.Text
