import PhpHooks.Number.Numeral
import PhpHooks.Text.Word

set_option autoImplicit false

/-!
Days and moments of the calendar, as plain scalars write them: `2001-12-14` is a day,
`2001-12-14 21:59:43.10 -5` a moment.
-/
namespace PhpHooks

structure Day where
  year : Nat
  month : Nat
  day : Nat
  deriving DecidableEq, Repr

structure Clock where
  hour : Nat
  minute : Nat
  second : Nat
  micro : Nat
  deriving DecidableEq, Repr

/-- A moment; `offset` tells how many minutes its clock is ahead, if that is known. -/
structure Moment where
  day : Day
  clock : Clock
  offset : Option Int
  deriving DecidableEq, Repr

inductive CalendarFault where
  | year (found : Nat)
  | month
  | day
  | hour
  | minute
  | second
  | offset (minutes : Int)
  deriving DecidableEq, Repr

/-- The text of a span of minutes: whole days, and the seconds above them. -/
def spanText (minutes : Int) : Text :=
  let days := minutes / 1440
  let seconds := minutes % 1440 * 60
  let parts := (if days == 0 then [] else ["days=".toList ++ Text.ofInt days]) ++
    (if seconds == 0 then [] else ["seconds=".toList ++ Text.ofInt seconds])
  let inside := if parts.isEmpty then ['0'] else Text.joined [',', ' '] parts
  "datetime.timedelta(".toList ++ inside ++ [')']

def CalendarFault.message : CalendarFault → Text
  | .year found => "year ".toList ++ Text.ofNat found ++ " is out of range".toList
  | .month => "month must be in 1..12".toList
  | .day => "day is out of range for month".toList
  | .hour => "hour must be in 0..23".toList
  | .minute => "minute must be in 0..59".toList
  | .second => "second must be in 0..59".toList
  | .offset minutes =>
      "offset must be a timedelta strictly between -timedelta(hours=24) and ".toList ++
        "timedelta(hours=24), not ".toList ++ spanText minutes ++ ['.']

namespace Day

def isLeap (year : Nat) : Bool :=
  year % 4 == 0 && (year % 100 != 0 || year % 400 == 0)

def monthLengths (year : Nat) : List Nat :=
  [31, if isLeap year then 29 else 28, 31, 30, 31, 30, 31, 31, 30, 31, 30, 31]

def make (year month day : Nat) : Except CalendarFault Day :=
  if year == 0 then .error (.year year)
  else if month == 0 then .error .month
  else
    match (monthLengths year).drop (month - 1) with
    | [] => .error .month
    | length :: _ => if day == 0 || length < day then .error .day else .ok ⟨year, month, day⟩

/-- The number of a day, counted from the first day of the first year. -/
def number (d : Day) : Nat :=
  let past := d.year - 1
  past * 365 + past / 4 - past / 100 + past / 400 +
    ((monthLengths d.year).take (d.month - 1)).foldl (· + ·) 0 + d.day

def text (d : Day) : Text :=
  "datetime.date(".toList ++
    Text.joined [',', ' '] ([d.year, d.month, d.day].map Text.ofNat) ++ [')']

end Day

def Clock.make (hour minute second micro : Nat) : Except CalendarFault Clock :=
  if 23 < hour then .error .hour
  else if 59 < minute then .error .minute
  else if 59 < second then .error .second
  else .ok ⟨hour, minute, second, micro⟩

namespace Moment

/-- The minute of a moment on a clock that is not ahead. -/
def minuteNumber (m : Moment) : Int :=
  m.day.number * 1440 + m.clock.hour * 60 + m.clock.minute - m.offset.getD 0

/-- Whether two moments are one. Without their offsets moments are compared by their clocks. -/
def same (a b : Moment) : Bool :=
  a.offset.isSome == b.offset.isSome && a.minuteNumber == b.minuteNumber &&
    a.clock.second == b.clock.second && a.clock.micro == b.clock.micro

/-- Seconds and parts of them are left out at the end where they are zero. -/
def text (m : Moment) : Text :=
  let clock := m.clock
  let tail :=
    if clock.micro != 0 then [clock.second, clock.micro]
    else if clock.second != 0 then [clock.second] else []
  let numbers := [m.day.year, m.day.month, m.day.day, clock.hour, clock.minute] ++ tail
  let offset :=
    match m.offset with
    | none => []
    | some 0 => [", tzinfo=datetime.timezone.utc".toList]
    | some minutes =>
        [", tzinfo=datetime.timezone(".toList ++ spanText minutes ++ [')']]
  "datetime.datetime(".toList ++ Text.joined [',', ' '] (numbers.map Text.ofNat) ++
    offset.flatten ++ [')']

end Moment

namespace Calendar

/-- The digits at the beginning of a text, at most so many, and what follows them. -/
def digits (most : Nat) (t : Text) : Text × Text :=
  let found := (t.take most).takeWhile Text.isAsciiDigit
  (found, t.drop found.length)

/-- The value of at least one digit and at most so many at the beginning of a text. -/
def number? (least most : Nat) (t : Text) : Option (Nat × Text) :=
  let (found, rest) := digits most t
  if found.length < least then none
  else (Numeral.natural? 10 found).map fun value => (value, rest)

/-- What follows a mark at the beginning of a text. -/
def after? (mark : Char) : Text → Option Text
  | [] => none
  | c :: rest => if c == mark then some rest else none

def isBlank (c : Char) : Bool := c == ' ' || c == '\t'

/-- What follows the mark between a day and a time: a letter or blanks. -/
def afterDay? : Text → Option Text
  | [] => none
  | c :: rest =>
      if c == 'T' || c == 't' then some rest
      else if isBlank c then some (rest.dropWhile isBlank)
      else none

/-- The fraction of a second in millionths, and what follows it. -/
def fraction : Text → Nat × Text
  | '.' :: rest =>
      let places := rest.takeWhile Text.isAsciiDigit
      let padded := (places ++ List.replicate 6 '0').take 6
      ((Numeral.natural? 10 padded).getD 0, rest.dropWhile Text.isAsciiDigit)
  | t => (0, t)

/-- The minutes that a clock is ahead, from the end of a moment; nothing may follow. -/
def offset? (t : Text) : Option (Option Int) :=
  if t.isEmpty then some none
  else
    match t.dropWhile isBlank with
    | ['Z'] => some (some 0)
    | sign :: rest =>
        if sign == '+' || sign == '-' then do
          let (hours, rest) ← number? 1 2 rest
          let minutes ←
            match rest with
            | [] => some 0
            | c :: more => do
                let more ← after? ':' (c :: more)
                let (minutes, rest) ← number? 2 2 more
                if rest.isEmpty then some minutes else none
          some (some (Numeral.signed (sign == '-') (hours * 60 + minutes)))
        else none
    | [] => none

/-- The numbers of a time and the offset of its clock, as they stand at the end of a moment. -/
def time? (t : Text) : Option ((Nat × Nat × Nat × Nat) × Option Int) := do
  let t ← afterDay? t
  let (hour, t) ← number? 1 2 t
  let t ← after? ':' t
  let (minute, t) ← number? 2 2 t
  let t ← after? ':' t
  let (second, t) ← number? 2 2 t
  let (micro, t) := fraction t
  let offset ← offset? t
  return ((hour, minute, second, micro), offset)

/-- The moment of numbers. The offset is looked at first; a clock is less than a day ahead or
behind. -/
def moment (year month day : Nat) (time : Nat × Nat × Nat × Nat) (offset : Option Int) :
    Except CalendarFault Moment := do
  let (hour, minute, second, micro) := time
  match offset with
  | some minutes => if 1440 ≤ minutes.natAbs then throw (.offset minutes)
  | none => pure ()
  let day ← Day.make year month day
  let clock ← Clock.make hour minute second micro
  return ⟨day, clock, offset⟩

/-- The day or the moment that a text writes. A day alone has two digits for its month and two for
its number. -/
def read? (t : Text) : Option (Except CalendarFault (Day ⊕ Moment)) := do
  let (year, t) ← number? 4 4 t
  let t ← after? '-' t
  let (month, afterMonth) ← number? 1 2 t
  let u ← after? '-' afterMonth
  let (day, rest) ← number? 1 2 u
  if rest.isEmpty then
    if t.length - afterMonth.length == 2 && u.length == 2 then
      some ((Day.make year month day).map .inl)
    else none
  else
    let (time, offset) ← time? rest
    some ((moment year month day time offset).map .inr)

end Calendar
end PhpHooks
