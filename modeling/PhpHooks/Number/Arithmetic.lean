import PhpHooks.Number.Double

set_option autoImplicit false

/-!
Sums and products of floating-point numbers. The exact result is rounded once, to the nearest
number.
-/
namespace PhpHooks.Double

/-- The zero of a sign. -/
def zero (negative : Bool) : Double :=
  .finite negative 0 minExponent

/-- The number nearest to `value * 2 ^ exponent`, for a value other than zero. -/
def ofScaled (value exponent : Int) : Double :=
  if 0 ≤ exponent then ofFraction (value < 0) (value.natAbs * Nat.pow 2 exponent.toNat) 1
  else ofFraction (value < 0) value.natAbs (Nat.pow 2 (-exponent).toNat)

/-- The number nearest to an integer; `none` if that is beyond all finite ones. -/
def ofNat? (n : Nat) : Option Double :=
  if n == 0 then some (zero false)
  else
    match ofFraction false n 1 with
    | .finite negative mantissa exponent => some (.finite negative mantissa exponent)
    | _ => none

def isInt (n : Int) : Double → Bool
  | .finite negative mantissa exponent =>
      if 0 ≤ exponent then Numeral.signed negative (mantissa * Nat.pow 2 exponent.toNat) == n
      else
        let unit := Nat.pow 2 (-exponent).toNat
        mantissa % unit == 0 && Numeral.signed negative (mantissa / unit) == n
  | _ => false

def neg : Double → Double
  | .finite negative mantissa exponent => .finite (!negative) mantissa exponent
  | .infinite negative => .infinite (!negative)
  | .notANumber => .notANumber

def isNegative : Double → Bool
  | .finite negative _ _ => negative
  | .infinite negative => negative
  | .notANumber => false

def isZero : Double → Bool
  | .finite _ mantissa _ => mantissa == 0
  | _ => false

def mul : Double → Double → Double
  | .notANumber, _ => .notANumber
  | _, .notANumber => .notANumber
  | .finite s m e, .finite s' m' e' =>
      if m * m' == 0 then zero (s != s')
      else ofScaled (Numeral.signed (s != s') (m * m')) (e + e')
  | x, y =>
      if x.isZero || y.isZero then .notANumber else .infinite (x.isNegative != y.isNegative)

def add : Double → Double → Double
  | .notANumber, _ => .notANumber
  | _, .notANumber => .notANumber
  | .infinite s, .infinite s' => if s == s' then .infinite s else .notANumber
  | .infinite s, _ => .infinite s
  | _, .infinite s => .infinite s
  | .finite s m e, .finite s' m' e' =>
      let low := min e e'
      let sum := Numeral.signed s (m * Nat.pow 2 (e - low).toNat) +
        Numeral.signed s' (m' * Nat.pow 2 (e' - low).toNat)
      if sum == 0 then zero (s && s') else ofScaled sum low

end PhpHooks.Double
