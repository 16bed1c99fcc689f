import PhpHooks.Text.Word
import PhpHooks.Yaml.Value

set_option autoImplicit false

/-!
What a plain scalar stands for: null, a truth value, a number or a text.
-/
namespace PhpHooks

/-- Why a scalar has no value: an integer with too many digits or with none at all, a code beyond
all characters, a number beyond the finite ones, or no day of the calendar. -/
inductive ScalarFault where
  | overflow (cause : Numeral.Overflow)
  | noDigits (base : Nat)
  | noCharacter
  | tooLarge
  | calendar (cause : CalendarFault)
  deriving DecidableEq, Repr

def ScalarFault.message? : ScalarFault → Option Text
  | .overflow cause => some cause.message
  | .noDigits base =>
      some ("invalid literal for int() with base ".toList ++ Text.ofNat base ++ ": ''".toList)
  | .noCharacter => some "chr() arg not in range(0x110000)".toList
  | .tooLarge => none
  | .calendar cause => some cause.message

/-- A text is no YAML document, or a scalar in it has no value. -/
inductive YamlFault where
  | malformed
  | scalar (cause : ScalarFault)
  deriving DecidableEq, Repr

namespace Yaml

def isOneOf (t : Text) (words : List String) : Bool :=
  words.any fun word => word.toList == t

def bool? (t : Text) : Option Bool :=
  if isOneOf t ["yes", "Yes", "YES", "true", "True", "TRUE", "on", "On", "ON"] then some true
  else if isOneOf t ["no", "No", "NO", "false", "False", "FALSE", "off", "Off", "OFF"] then
    some false
  else none

/-- Digits and underscores. -/
def isSpaced (digit : Char → Bool) (t : Text) : Bool :=
  t.all fun c => digit c || c == '_'

def isOctalDigit (c : Char) : Bool := '0' ≤ c && c ≤ '7'

def isHexDigit (c : Char) : Bool :=
  Text.isAsciiDigit c || ('a' ≤ c && c ≤ 'f') || ('A' ≤ c && c ≤ 'F')

def digitsValue (base : Nat) (t : Text) : Nat :=
  (Numeral.natural? base (Double.lowerAscii (Text.without '_' t))).getD 0

def colonPieces : Text → List Text
  | [] => [[]]
  | c :: rest =>
      if c == ':' then [] :: colonPieces rest
      else
        match colonPieces rest with
        | [] => [[c]]
        | piece :: others => (c :: piece) :: others

/-- Whether a piece is a number below sixty, with one digit or two. -/
def isSixtieth : Text → Bool
  | [a] => Text.isAsciiDigit a
  | [a, b] => '0' ≤ a && a ≤ '5' && Text.isAsciiDigit b
  | _ => false

/-- The value of digits behind the mark of a base, of which there has to be one. -/
def markedValue (base : Nat) (t : Text) : Except ScalarFault Nat :=
  match Numeral.natural? base (Double.lowerAscii (Text.without '_' t)) with
  | some value => .ok value
  | none => .error (.noDigits base)

/-- The value of decimal digits, if they are not too many. -/
def decimalValue (t : Text) : Except ScalarFault Nat :=
  let digits := (Text.without '_' t).length
  if Numeral.maxDigits < digits then .error (.overflow (.reading digits))
  else .ok (digitsValue 10 t)

def sixtieths (pieces : List Text) : Except ScalarFault Nat :=
  (pieces.mapM decimalValue).map (Numeral.ofDigits 60)

/-- The magnitude of an integer: binary, octal, hexadecimal, decimal or in base sixty. Underscores
do not count. -/
def magnitude? (t : Text) : Option (Except ScalarFault Nat) :=
  match t with
  | '0' :: 'b' :: c :: rest =>
      if isSpaced (fun d => d == '0' || d == '1') (c :: rest) then some (markedValue 2 (c :: rest))
      else none
  | '0' :: 'x' :: c :: rest =>
      if isSpaced isHexDigit (c :: rest) then some (markedValue 16 (c :: rest)) else none
  | '0' :: rest =>
      if isSpaced isOctalDigit rest then some (.ok (digitsValue 8 ('0' :: rest))) else none
  | c :: rest =>
      if !Text.isAsciiDigit c then none
      else if isSpaced Text.isAsciiDigit rest then some (decimalValue t)
      else
        match colonPieces t with
        | first :: second :: others =>
            if isSpaced Text.isAsciiDigit first && (second :: others).all isSixtieth then
              some (sixtieths (first :: second :: others))
            else none
        | _ => none
  | [] => none

def signedInt? (t : Text) : Option (Except ScalarFault Int) :=
  let (negative, unsigned) := Numeral.splitSign t
  (magnitude? unsigned).map fun value => value.map (Numeral.signed negative)

/-- Whether a text is an exponent, which needs its sign, or nothing. -/
def isPower : Text → Bool
  | [] => true
  | e :: sign :: digit :: rest =>
      (e == 'e' || e == 'E') && (sign == '+' || sign == '-') &&
        (digit :: rest).all Text.isAsciiDigit
  | _ => false

/-- Whether a text is a decimal fraction: digits, a point, digits and an exponent. Without a digit
before the point one has to follow it. -/
def isFraction (signed : Bool) (t : Text) : Bool :=
  let isDigit (c : Char) : Bool := Text.isAsciiDigit c || c == '_'
  match t.dropWhile isDigit with
  | '.' :: rest =>
      isPower (rest.dropWhile isDigit) &&
        (if t.head? == some '.' then !signed && (rest.head?.map Text.isAsciiDigit).getD false
          else (t.head?.map Text.isAsciiDigit).getD false)
  | _ => false

/-- The sum of numbers, each worth sixty times the one before it. Each product and each sum is
rounded; the first number is worth `unit`, which may not be beyond the finite numbers. -/
def sixtiethSum (sum : Double) (unit : Nat) : List Double → Except ScalarFault Double
  | [] => .ok sum
  | x :: rest =>
      match Double.ofNat? unit with
      | none => .error .tooLarge
      | some value => sixtiethSum (sum.add (x.mul value)) (unit * 60) rest

def sixtiethFraction? (negative : Bool) (t : Text) : Option (Except ScalarFault Double) :=
  let whole := t.takeWhile (· != '.')
  match t.dropWhile (· != '.'), colonPieces whole with
  | '.' :: rest, first :: second :: others =>
      if isSpaced Text.isAsciiDigit rest && isSpaced Text.isAsciiDigit first &&
          (first.head?.map Text.isAsciiDigit).getD false && (second :: others).all isSixtieth then
        let numbers := (colonPieces (Text.without '_' t)).filterMap (Double.readUnsigned? false)
        let sum := sixtiethSum (.zero false) 1 numbers.reverse
        some (sum.map fun value => if negative then value.neg else value)
      else none
  | _, _ => none

/-- A floating-point number; the names of infinity and of no number begin with a point. -/
def float? (t : Text) : Option (Except ScalarFault Double) :=
  let (negative, unsigned) := Numeral.splitSign t
  let isSigned := unsigned.length < t.length
  if isOneOf unsigned [".inf", ".Inf", ".INF"] then some (.ok (.infinite negative))
  else if isOneOf t [".nan", ".NaN", ".NAN"] then some (.ok .notANumber)
  else if isFraction isSigned unsigned then
    (Double.readUnsigned? negative (Text.without '_' unsigned)).map .ok
  else sixtiethFraction? negative unsigned

def ofCalendar : Day ⊕ Moment → Yaml
  | .inl d => .day d
  | .inr m => .moment m

/-- The key whose value is merged into the mapping around it. -/
def mergeKey : Text := ['<', '<']

/-- The key for the value of a mapping as a whole, which is a plain text as a key. -/
def valueKey : Text := ['=']

/-- The value of a plain scalar. The two special keys have none. -/
def ofPlain (t : Text) : Except YamlFault Yaml :=
  if t.isEmpty || isOneOf t ["~", "null", "Null", "NULL"] then .ok .null
  else if t == mergeKey || t == valueKey then .error .malformed
  else
    match bool? t, float? t, signedInt? t, Calendar.read? t with
    | some value, _, _, _ => .ok (.bool value)
    | none, some value, _, _ => (value.mapError .scalar).map .float
    | none, none, some value, _ => (value.mapError .scalar).map .int
    | none, none, none, some value =>
        (value.mapError fun cause => .scalar (.calendar cause)).map ofCalendar
    | none, none, none, none => .ok (ofText t)

end Yaml
end PhpHooks
