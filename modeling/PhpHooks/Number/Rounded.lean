import PhpHooks.Number.Shortest

set_option autoImplicit false

/-!
Decimal texts of floating-point numbers with a given number of places, rounded from the exact value.
-/
namespace PhpHooks.Double

def fraction (mantissa : Nat) (exponent : Int) : Nat × Nat :=
  if 0 ≤ exponent then (mantissa * Nat.pow 2 exponent.toNat, 1)
  else (mantissa, Nat.pow 2 (-exponent).toNat)

/-- The digits of a count of `10 ^ -places`, with a point in front of the places. Without places the
point is written if `keepPoint` says so. -/
def pointed (keepPoint : Bool) (count places : Nat) : Text :=
  let digits := Text.ofNat count
  let padded := List.replicate (places + 1 - digits.length) '0' ++ digits
  let whole := padded.take (padded.length - places)
  let fraction := padded.drop (padded.length - places)
  whole ++ (if fraction.isEmpty && !keepPoint then [] else '.' :: fraction)

/-- A magnitude as a count of `10 ^ (power - places)`, with its power of ten. -/
def scientific (mantissa : Nat) (exponent : Int) (places : Nat) : Nat × Int :=
  if mantissa == 0 then (0, 0)
  else
    let (num, den) := fraction mantissa exponent
    let power := point num den - 1
    let shift : Int := places - power
    let count :=
      if 0 ≤ shift then roundDiv (num * Nat.pow 10 shift.toNat) den
      else roundDiv num (den * Nat.pow 10 (-shift).toNat)
    if count == Nat.pow 10 (places + 1) then (Nat.pow 10 places, power + 1) else (count, power)

def fixedText (keepPoint : Bool) (places mantissa : Nat) (exponent : Int) : Text :=
  let (num, den) := fraction mantissa exponent
  pointed keepPoint (roundDiv (num * Nat.pow 10 places) den) places

def powerNotation (keepPoint : Bool) (places mantissa : Nat) (exponent : Int) : Text :=
  let (count, power) := scientific mantissa exponent places
  pointed keepPoint count places ++ 'e' :: powerText power

/-- The text up to the last place that is not zero. -/
def trimPlaces (t : Text) : Text :=
  if t.contains '.' then
    let kept := (t.reverse.dropWhile (· == '0')).reverse
    if kept.getLast? == some '.' then kept.dropLast else kept
  else t

/-- The shorter of both notations for so many significant digits. Zeros at the end are left out
unless `keepPoint` says that they stay. -/
def generalText (keepPoint : Bool) (digits mantissa : Nat) (exponent : Int) : Text :=
  let places := max digits 1 - 1
  let (count, power) := scientific mantissa exponent places
  let trim (t : Text) : Text := if keepPoint then t else trimPlaces t
  if -4 ≤ power && power ≤ places then
    trim (pointed keepPoint count (places - power).toNat)
  else trim (pointed keepPoint count places) ++ 'e' :: powerText power

end PhpHooks.Double
