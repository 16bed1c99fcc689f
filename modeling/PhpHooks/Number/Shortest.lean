import PhpHooks.Number.Double

set_option autoImplicit false

/-!
The shortest decimal text of a floating-point number: the fewest digits that round back to it, and
of those the nearest.
-/
namespace PhpHooks.Double

/-- The positive numbers that round to a finite number, all over one denominator: the value
itself, the bounds below and above it, and whether the bounds belong to the interval. -/
structure Neighbourhood where
  value : Nat
  lower : Nat
  upper : Nat
  denominator : Nat
  closed : Bool

/-- The interval around `mantissa * 2 ^ exponent`. Below a power of two the gap is half as wide. -/
def neighbourhood (mantissa : Nat) (exponent : Int) : Neighbourhood :=
  let scale := if 0 ≤ exponent then Nat.pow 2 exponent.toNat else 1
  let below := if mantissa == Nat.pow 2 52 && minExponent < exponent then 1 else 2
  { value := 4 * mantissa * scale
    lower := (4 * mantissa - below) * scale
    upper := (4 * mantissa + 2) * scale
    denominator := 4 * (if 0 ≤ exponent then 1 else Nat.pow 2 (-exponent).toNat)
    closed := mantissa % 2 == 0 }

/-- The number of digits before the point of `num / den`, which is zero or less below a tenth:
the `p` with `10 ^ (p - 1) ≤ num / den < 10 ^ p`. The search starts at `guess` and goes up. -/
def pointAfter (num den : Nat) : Nat → Int → Int
  | 0, guess => guess
  | steps + 1, guess =>
      let below :=
        if 0 ≤ guess then num < den * Nat.pow 10 guess.toNat
        else num * Nat.pow 10 (-guess).toNat < den
      if below then guess else pointAfter num den steps (guess + 1)

def point (num den : Nat) : Int :=
  let guess : Int := ((num.log2 : Int) - den.log2 - 1) * 30103 / 100000 - 1
  pointAfter num den 8 guess

/-- Whether `count * 10 ^ power` rounds back to the middle of the neighbourhood. -/
def Neighbourhood.holds (n : Neighbourhood) (count : Nat) (power : Int) : Bool :=
  let up := if 0 ≤ power then Nat.pow 10 power.toNat else 1
  let down := if 0 ≤ power then 1 else Nat.pow 10 (-power).toNat
  let x := count * up * n.denominator
  if n.closed then n.lower * down ≤ x && x ≤ n.upper * down
  else n.lower * down < x && x < n.upper * down

/-- The fewest digits, starting the search at `used` digits, as a count of the unit `10 ^ power`.
Of the two grid points beside the value the nearer is taken, at equal distance the even one. -/
def Neighbourhood.shortest (n : Neighbourhood) (place : Int) : Nat → Nat → Nat × Int
  | 0, used => (0, place - used)
  | steps + 1, used =>
      let power := place - used
      let num := if 0 ≤ power then n.value else n.value * Nat.pow 10 (-power).toNat
      let den := if 0 ≤ power then n.denominator * Nat.pow 10 power.toNat else n.denominator
      let low := num / den
      let near := roundDiv num den
      let far := if near == low then low + 1 else low
      if n.holds near power then (near, power)
      else if n.holds far power then (far, power)
      else n.shortest place steps (used + 1)

/-- The digits and the place of the decimal point of a positive finite number, so that the number
is `0.digits * 10 ^ point`. -/
def shortestDigits (mantissa : Nat) (exponent : Int) : Text × Int :=
  let n := neighbourhood mantissa exponent
  let (count, power) := n.shortest (point n.value n.denominator) 17 1
  let digits := Text.ofNat count
  (((digits.reverse.dropWhile (· == '0')).reverse), digits.length + power)

/-- Exponents are written with a sign and at least two digits. -/
def powerText (power : Int) : Text :=
  let digits := Text.ofNat power.natAbs
  (if power < 0 then '-' else '+') :: (if digits.length < 2 then '0' :: digits else digits)

/-- The digits with their point: positional from `0.0001` up to below `10 ^ 16`, with a zero after
the point of an integer, and with an exponent otherwise. -/
def placePoint (digits : Text) (place : Int) : Text :=
  let power := place - 1
  if power < -4 || 16 ≤ power then
    let fraction := digits.drop 1
    digits.take 1 ++ (if fraction.isEmpty then [] else '.' :: fraction) ++ 'e' :: powerText power
  else if place ≤ 0 then
    '0' :: '.' :: List.replicate (-place).toNat '0' ++ digits
  else
    let fraction := digits.drop place.toNat
    digits.take place.toNat ++ List.replicate (place.toNat - digits.length) '0' ++
      '.' :: (if fraction.isEmpty then ['0'] else fraction)

/-- The shortest text that reads back as the number. -/
def toText : Double → Text
  | .notANumber => "nan".toList
  | .infinite negative => (if negative then ['-'] else []) ++ "inf".toList
  | .finite negative mantissa exponent =>
      let magnitude :=
        if mantissa == 0 then "0.0".toList
        else
          let (digits, place) := shortestDigits mantissa exponent
          placePoint digits place
      (if negative then ['-'] else []) ++ magnitude

end PhpHooks.Double
