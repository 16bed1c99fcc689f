import PhpHooks.Number.Numeral

set_option autoImplicit false

/-!
Binary floating-point numbers of 64 bits as exact values, and the rounding of decimal fractions
to them.
-/
namespace PhpHooks

/-- A finite number is `±mantissa * 2 ^ exponent`, with `mantissa < 2 ^ 53` and
`-1074 ≤ exponent ≤ 971`; a mantissa below `2 ^ 52` occurs with the least exponent only. So the
two zeros apart, a number has one representation. -/
inductive Double where
  | finite (negative : Bool) (mantissa : Nat) (exponent : Int)
  | infinite (negative : Bool)
  | notANumber
  deriving DecidableEq, Repr

namespace Double

/-- Numeric equality: the two zeros are one number. -/
def same : Double → Double → Bool
  | .finite s m e, .finite s' m' e' => m == m' && e == e' && (s == s' || m == 0)
  | .infinite s, .infinite s' => s == s'
  | .notANumber, .notANumber => true
  | _, _ => false

def minExponent : Int := -1074

/-- The greatest exponent of a finite number. -/
def maxExponent : Int := 971

/-- `num / den` rounded to the nearest integer, a half to the even one. -/
def roundDiv (num den : Nat) : Nat :=
  let quotient := num / den
  let rest := num % den
  if 2 * rest < den then quotient
  else if den < 2 * rest then quotient + 1
  else quotient + quotient % 2

/-- `num / den / 2 ^ e` as a fraction of natural numbers. -/
def scaled (num den : Nat) (e : Int) : Nat × Nat :=
  if 0 ≤ e then (num, den * Nat.pow 2 e.toNat) else (num * Nat.pow 2 (-e).toNat, den)

/-- The exponent whose mantissa for `num / den` has 53 bits, but at least the least exponent. -/
def exponentFor (num den : Nat) : Int :=
  let low : Int := (num.log2 : Int) - den.log2 - 53
  let (n, d) := scaled num den low
  max minExponent (if n / d < Nat.pow 2 53 then low else low + 1)

/-- The number nearest to `±num / den`, for positive `num` and `den`. -/
def ofFraction (negative : Bool) (num den : Nat) : Double :=
  let e := exponentFor num den
  let (n, d) := scaled num den e
  let mantissa := roundDiv n d
  let (mantissa, e) := if mantissa == Nat.pow 2 53 then (Nat.pow 2 52, e + 1) else (mantissa, e)
  if maxExponent < e then .infinite negative else .finite negative mantissa e

/-- The number nearest to `±digits * 10 ^ power`. Magnitudes from `10 ^ 310` on overflow and those
below `10 ^ -330` vanish, so the power never has to be computed there. -/
def ofDecimal (negative : Bool) (digits : Nat) (power : Int) : Double :=
  let magnitude : Int := (Nat.toDigits 10 digits).length + power
  if digits == 0 || magnitude < -330 then .finite negative 0 minExponent
  else if 311 < magnitude then .infinite negative
  else if 0 ≤ power then ofFraction negative (digits * Nat.pow 10 power.toNat) 1
  else ofFraction negative digits (Nat.pow 10 (-power).toNat)

/-- The exponent part of a decimal literal: nothing, or `e` with a sign and digits. -/
def readPower? : Text → Option Int
  | [] => some 0
  | c :: rest =>
      if c == 'e' || c == 'E' then
        let (negative, digits) := Numeral.splitSign rest
        (Numeral.natural? 10 digits).map (Numeral.signed negative)
      else none

/-- A decimal literal without a sign: digits with at most one point among them, then an exponent. -/
def readUnsigned? (negative : Bool) (t : Text) : Option Double :=
  let whole := t.takeWhile Text.isDigit
  let afterWhole := t.dropWhile Text.isDigit
  let (fraction, rest) :=
    match afterWhole with
    | '.' :: more => (more.takeWhile Text.isDigit, more.dropWhile Text.isDigit)
    | _ => ([], afterWhole)
  match Numeral.natural? 10 (whole ++ fraction), readPower? rest with
  | some digits, some power => some (ofDecimal negative digits (power - fraction.length))
  | _, _ => none

def lowerAscii (t : Text) : Text :=
  t.map fun c => if 'A' ≤ c && c ≤ 'Z' then Char.ofNat (c.toNat + 32) else c

/-- The number that a text spells: a decimal literal or the name of an infinity or of no number,
with padding around it and a sign in front. -/
def read? (t : Text) : Option Double :=
  let (negative, body) := Numeral.splitSign (Numeral.trimPadding t)
  let name := lowerAscii body
  if name == "inf".toList || name == "infinity".toList then some (.infinite negative)
  else if name == "nan".toList then some .notANumber
  else readUnsigned? negative body

end Double
end PhpHooks
