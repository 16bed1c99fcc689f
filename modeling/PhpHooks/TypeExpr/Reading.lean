import PhpHooks.TypeExpr.Parser

set_option autoImplicit false

/-!
What a documented type text amounts to: nothing, a type without literal members, a text to drop,
or one that cannot be read to its end.
-/
namespace PhpHooks

/-- Why a text cannot be read to its end: an integer in it has too many digits, or the stack has no
room for it. -/
inductive ReadingFault where
  | overflow (cause : Numeral.Overflow)
  | exhausted
  deriving DecidableEq, Repr

inductive TypeReading where
  | nothing
  | dropped (cause : Malformed)
  | usable (type : UnionType)
  | failed (cause : ReadingFault)

variable [Stack]

namespace TypeReading

/-- A missing or blank text says nothing; a malformed one is dropped; of the others the literal
members are widened. -/
def ofText : Option Text → TypeReading
  | none => .nothing
  | some t =>
      if Text.allBlank t then .nothing
      else
        match TypeExpr.parse? t with
        | some (.ok u) => .usable u.widen
        | some (.error (.malformed cause)) => .dropped cause
        | some (.error (.overflow cause)) => .failed (.overflow cause)
        | none => .failed .exhausted

/-- The type if there is one. A text that cannot be read to its end is an error, all else is
absence. -/
def type? : TypeReading → Except ReadingFault (Option UnionType)
  | .usable u => .ok (some u)
  | .failed cause => .error cause
  | .nothing => .ok none
  | .dropped _ => .ok none

end TypeReading

/-- The widened type of a documented text, if it spells one. -/
def normalize (t : Option Text) : Except ReadingFault (Option UnionType) :=
  (TypeReading.ofText t).type?

/-- The widened types of the texts that spell one, in order. -/
def normalizeAll : List (Option Text) → Except ReadingFault (List UnionType)
  | [] => .ok []
  | t :: rest => do
      let type? ← normalize t
      let types ← normalizeAll rest
      return type?.toList ++ types

end PhpHooks
