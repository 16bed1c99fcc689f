import PhpHooks.Number.Arithmetic
import PhpHooks.Number.Rounded
import PhpHooks.Text.Quoted
import PhpHooks.Text.Word

set_option autoImplicit false

/-!
Message templates. A percent sign begins a field, which says how the next value is written: `%s` as
it reads, `%d` as an integer, `%5.1f` with one place and padded to five characters.
-/
namespace PhpHooks

inductive LogValue where
  | truth (value : Bool)
  | integer (value : Int)
  | number (value : Double)
  | text (value : Text)
  | record (entries : List (Text × LogValue)) (shown : Text)
  | other (shown : Text)
  deriving Inhabited

/-- Why a template cannot be filled in: the values do not fit it, a field has no end, asks for a
conversion that there is none of or is too wide, a key is not there, or a number cannot be
written. -/
inductive TemplateFault where
  | mismatch
  | incomplete
  | incompleteKey
  | unsupported (conversion : Char) (index : Nat)
  | widthTooBig
  | precisionTooBig
  | missingKey
  | tooLarge
  | noInteger
  | overflow (cause : Numeral.Overflow)

def TemplateFault.message? : TemplateFault → Option Text
  | .incomplete => some "incomplete format".toList
  | .incompleteKey => some "incomplete format key".toList
  | .unsupported c index =>
      let shown := if 31 ≤ c.toNat && c.toNat ≤ 126 then c else '?'
      some ("unsupported format character '".toList ++ shown :: "' (0x".toList ++
        Text.hexPadded 1 c.toNat ++ ") at index ".toList ++ Text.ofNat index)
  | .widthTooBig => some "width too big".toList
  | .precisionTooBig => some "precision too big".toList
  | .noInteger => some "cannot convert float NaN to integer".toList
  | .overflow cause => some cause.message
  | _ => none

namespace LogValue

def plain : LogValue → Except TemplateFault Text
  | .truth value => .ok (if value then "True".toList else "False".toList)
  | .integer value => (Numeral.write value).mapError .overflow
  | .number value => .ok value.toText
  | .text value => .ok value
  | .record _ shown => .ok shown
  | .other shown => .ok shown

/-- The text of a value with strings quoted. -/
def quoted : LogValue → Except TemplateFault Text
  | .text value => .ok (Text.quoted value)
  | value => value.plain

/-- The integer that a value is; truth values are integers too. -/
def int? : LogValue → Option Int
  | .truth value => some (if value then 1 else 0)
  | .integer value => some value
  | _ => none

def whole : LogValue → Except TemplateFault Int
  | .number (.finite negative mantissa exponent) =>
      let (num, den) := Double.fraction mantissa exponent
      .ok (Numeral.signed negative (num / den))
  | .number (.infinite _) => .error .tooLarge
  | .number .notANumber => .error .noInteger
  | value =>
      match value.int? with
      | some n => .ok n
      | none => .error .mismatch

def double : LogValue → Except TemplateFault Double
  | .number value => .ok value
  | value =>
      match value.int? with
      | none => .error .mismatch
      | some n =>
          match Double.ofNat? n.natAbs with
          | some x => .ok (if n < 0 then x.neg else x)
          | none => .error .tooLarge

/-- The character that a value is or whose code it is. -/
def char : LogValue → Except TemplateFault Char
  | .text [c] => .ok c
  | value =>
      match value.int? with
      | some n => if 0 ≤ n && n < 0x110000 then .ok (Char.ofNat n.toNat) else .error .tooLarge
      | none => .error .mismatch

end LogValue

namespace Template

structure Layout where
  left : Bool
  plus : Bool
  blank : Bool
  alternate : Bool
  zeros : Bool
  width : Option Nat
  precision : Option Nat

/-- The values that are left, and the entries of the one record that a template is filled in from,
if there is one. -/
structure Supply where
  values : List LogValue
  entries : Option (List (Text × LogValue))

/-- The supply of values. A single record that is not empty is looked into by keys. -/
def Supply.ofValues : List LogValue → Supply
  | [.record (first :: rest) shown] => ⟨[.record (first :: rest) shown], some (first :: rest)⟩
  | values => ⟨values, none⟩

def Supply.next (s : Supply) : Except TemplateFault (LogValue × Supply) :=
  match s.values with
  | value :: rest => .ok (value, { s with values := rest })
  | [] => .error .mismatch

def Supply.atKey (s : Supply) (key : Text) : Except TemplateFault Supply :=
  match s.entries with
  | none => .error .mismatch
  | some entries =>
      match entries.lookup key with
      | some value => .ok { s with values := [value] }
      | none => .error .missingKey

/-- The key up to its closing parenthesis, with `depth` others open in it, and what follows. -/
def key? (depth : Nat) : Text → Option (Text × Text)
  | [] => none
  | c :: rest =>
      if c == ')' && depth == 0 then some ([], rest)
      else
        let depth := if c == '(' then depth + 1 else if c == ')' then depth - 1 else depth
        (key? depth rest).map fun (key, after) => (c :: key, after)

def number (t : Text) : Nat × Text :=
  ((Numeral.natural? 10 (t.takeWhile Text.isAsciiDigit)).getD 0, t.dropWhile Text.isAsciiDigit)

def isFlag (c : Char) : Bool :=
  c == '-' || c == '+' || c == ' ' || c == '#' || c == '0'

/-- The number that a star takes from the values; it has to be below the limit. -/
def starred (limit : Nat) (s : Supply) : Except TemplateFault (Int × Supply) := do
  let (value, s) ← s.next
  match value.int? with
  | some n => if -(limit : Int) ≤ n && n < limit then return (n, s) else .error .tooLarge
  | none => .error .mismatch

def maxWidth : Nat := Nat.pow 2 63

def maxPrecision : Nat := Nat.pow 2 31

/-- The width of a field, if it has one, with what is left of the template and of the values. -/
def width (t : Text) (s : Supply) : Except TemplateFault (Option Int × Text × Supply) :=
  match t with
  | '*' :: rest => do
      let (n, s) ← starred maxWidth s
      return (some n, rest, s)
  | c :: _ =>
      if Text.isAsciiDigit c then
        let (n, rest) := number t
        if n < maxWidth then .ok (some n, rest, s) else .error .widthTooBig
      else .ok (none, t, s)
  | [] => .ok (none, t, s)

/-- The precision of a field, if it has one, with what is left of the template and of the values. -/
def precision (t : Text) (s : Supply) : Except TemplateFault (Option Nat × Text × Supply) :=
  match t with
  | '.' :: '*' :: rest => do
      let (n, s) ← starred maxPrecision s
      return (some n.toNat, rest, s)
  | '.' :: rest =>
      let (n, rest) := number rest
      if n < maxPrecision then .ok (some n, rest, s) else .error .precisionTooBig
  | _ => .ok (none, t, s)

/-- What follows the letter for the size of a number, which says nothing. -/
def afterSize : Text → Text
  | [] => []
  | c :: rest => if c == 'h' || c == 'l' || c == 'L' then rest else c :: rest

/-- The layout of a field from the sign to its conversion, with what is left of the template and of
the values. A star takes a number from the values. -/
def layout (t : Text) (s : Supply) : Except TemplateFault (Layout × Text × Supply) := do
  let flags := t.takeWhile isFlag
  let (width, t, s) ← width (t.dropWhile isFlag) s
  let (precision, t, s) ← precision t s
  let backward := (width.map fun n => decide (n < 0)).getD false
  return ({ left := flags.contains '-' || backward, plus := flags.contains '+'
            blank := flags.contains ' ', alternate := flags.contains '#'
            zeros := flags.contains '0', width := width.map Int.natAbs, precision }, afterSize t, s)

def padded (l : Layout) (t : Text) : Text :=
  let fill := List.replicate (l.width.getD 0 - t.length) ' '
  if l.left then t ++ fill else fill ++ t

/-- A number padded to the width of a field. Zeros stand behind the sign and the mark of a base. -/
def paddedNumber (l : Layout) (negative : Bool) (mark digits : Text) : Text :=
  let sign := if negative then ['-'] else if l.plus then ['+'] else if l.blank then [' '] else []
  if l.zeros && !l.left then
    let length := sign.length + mark.length + digits.length
    sign ++ mark ++ List.replicate (l.width.getD 0 - length) '0' ++ digits
  else padded l (sign ++ mark ++ digits)

/-- Text cut to the precision of a field and padded to its width. -/
def textField (l : Layout) (t : Text) : Text :=
  padded l ((l.precision.map fun n => t.take n).getD t)

def upperAscii (t : Text) : Text :=
  t.map fun c => if 'a' ≤ c && c ≤ 'z' then Char.ofNat (c.toNat - 32) else c

/-- An integer with at least as many digits as the precision asks for. -/
def integerField (l : Layout) (mark : Text) (negative : Bool) (digits : Text) : Text :=
  let digits := List.replicate (l.precision.getD 0 - digits.length) '0' ++ digits
  paddedNumber l negative (if l.alternate then mark else []) digits

def doubleField (l : Layout) (conversion : Char) (x : Double) : Text :=
  let places := l.precision.getD 6
  let shown :=
    match x with
    | .notANumber => "nan".toList
    | .infinite _ => "inf".toList
    | .finite _ mantissa exponent =>
        if conversion == 'f' || conversion == 'F' then
          Double.fixedText l.alternate places mantissa exponent
        else if conversion == 'e' || conversion == 'E' then
          Double.powerNotation l.alternate places mantissa exponent
        else Double.generalText l.alternate places mantissa exponent
  paddedNumber l x.isNegative [] (if conversion.isUpper then upperAscii shown else shown)

def field (l : Layout) (conversion : Char) (index : Nat) (value : LogValue) :
    Except TemplateFault Text := do
  match conversion with
  | 's' => return textField l (← value.plain)
  | 'r' => return textField l (← value.quoted)
  | 'a' =>
      let quoted ← value.quoted
      return textField l (quoted.flatMap fun c => if c.toNat < 0x80 then [c] else Text.codeEscape c)
  | 'c' => return padded l [← value.char]
  | 'd' | 'i' | 'u' =>
      let n ← value.whole
      let digits ← (Numeral.write n.natAbs).mapError .overflow
      return integerField { l with alternate := false } [] (n < 0) digits
  | 'o' | 'x' | 'X' =>
      match value.int? with
      | none => .error .mismatch
      | some n =>
          let base := if conversion == 'o' then 8 else 16
          let digits := Nat.toDigits base n.natAbs
          let shown := if conversion == 'X' then upperAscii digits else digits
          return integerField l ['0', conversion] (n < 0) shown
  | 'e' | 'E' | 'f' | 'F' | 'g' | 'G' => return doubleField l conversion (← value.double)
  | _ => .error (.unsupported conversion index)

/-- Fills in what is left of a template of so many characters. Two percent signs are one that stands
for itself. The number of characters bounds the number of fields. -/
def fillFrom (size : Nat) : Nat → Text → Supply → Except TemplateFault Text
  | _, [], s => if s.entries.isNone && !s.values.isEmpty then .error .mismatch else .ok []
  | 0, _ :: _, _ => .ok []
  | bound + 1, '%' :: '%' :: t, s => do
      return '%' :: (← fillFrom size bound t s)
  | bound + 1, '%' :: t, s => do
      let (t, s) ←
        match t with
        | '(' :: rest =>
            match s.entries, key? 0 rest with
            | none, _ => Except.error .mismatch
            | some _, none => Except.error .incompleteKey
            | some _, some (key, rest) => do
                let s ← s.atKey key
                Except.ok (rest, s)
        | _ => Except.ok (t, s)
      let (l, t, s) ← layout t s
      match t with
      | [] => .error .incomplete
      | conversion :: rest =>
          let (value, s) ← s.next
          let shown ← field l conversion (size - rest.length - 1) value
          return shown ++ (← fillFrom size bound rest s)
  | bound + 1, c :: t, s => do
      return c :: (← fillFrom size bound t s)

/-- A template filled in with values. All values have to be used. -/
def fill (template : Text) (values : List LogValue) : Except TemplateFault Text :=
  fillFrom template.length template.length template (.ofValues values)

end Template
end PhpHooks
