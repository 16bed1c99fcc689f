import PhpHooks.Text.Blank
import PhpHooks.Text.Digit

set_option autoImplicit false

/-!
Numerals: digit sequences in a base, and signed decimal integers with blanks around them.
-/
namespace PhpHooks.Numeral

/-- The value of digits, most significant first. -/
def ofDigits (base : Nat) (digits : List Nat) : Nat :=
  digits.foldl (fun value digit => value * base + digit) 0

/-- The value of `c` as a digit in `base`: a decimal digit of any script, or a small letter from
`a` on for ten and more. -/
def digit? (base : Nat) (c : Char) : Option Nat :=
  let value? :=
    if 'a' ≤ c && c ≤ 'z' then some (c.toNat - 87) else Text.digitValue? c
  value?.filter (· < base)

def digits? (base : Nat) : Text → Option (List Nat)
  | [] => some []
  | c :: rest =>
      match digit? base c, digits? base rest with
      | some value, some values => some (value :: values)
      | _, _ => none

/-- The value of a numeral, which has at least one digit. -/
def natural? (base : Nat) (t : Text) : Option Nat :=
  if t.isEmpty then none else (digits? base t).map (ofDigits base)

/-- The most digits that a decimal integer may have. -/
def maxDigits : Nat := 4300

/-- A decimal integer with more digits than `maxDigits`: one to read, with the digits found, or one
to write. -/
inductive Overflow where
  | reading (digits : Nat)
  | writing
  deriving DecidableEq, Repr

/-- The message names the limit and the number of digits if they have been counted. -/
def Overflow.message (overflow : Overflow) : Text :=
  let found :=
    match overflow with
    | .reading digits => ": value has ".toList ++ Text.ofNat digits ++ " digits".toList
    | .writing => []
  "Exceeds the limit (".toList ++ Text.ofNat maxDigits ++
    " digits) for integer string conversion".toList ++ found ++
    "; use sys.set_int_max_str_digits() to increase the limit".toList

def write (n : Int) : Except Overflow Text :=
  if Nat.pow 10 maxDigits ≤ n.natAbs then .error .writing else .ok (Text.ofInt n)

/-- Blanks that may stand around a number. The separators U+001C to U+001F may not. -/
def isPadding (c : Char) : Bool :=
  Text.isBlank c && !(0x1c ≤ c.toNat && c.toNat ≤ 0x1f)

def trimPaddingEnd (t : Text) : Text :=
  (t.reverse.dropWhile isPadding).reverse

def trimPadding (t : Text) : Text :=
  trimPaddingEnd (t.dropWhile isPadding)

/-- Whether a sign in front of the text makes it negative, and the text after the sign. -/
def splitSign : Text → Bool × Text
  | '-' :: rest => (true, rest)
  | '+' :: rest => (false, rest)
  | t => (false, t)

def signed (negative : Bool) (n : Nat) : Int :=
  if negative then -(n : Int) else n

/-- The integer that a text spells in `base`, with padding around it and a sign in front. -/
def integer? (base : Nat) (t : Text) : Option Int :=
  let (negative, digits) := splitSign (trimPadding t)
  (natural? base digits).map (signed negative)

end PhpHooks.Numeral
