import PhpHooks.TypeExpr.Lexeme

set_option autoImplicit false

/-!
How the classes of characters exclude one another. Blanks are few enough to be listed; digits, word
characters and the characters of names and marks are compared by code points.
-/
namespace PhpHooks.Text

def blankCodes : List Nat :=
  [0x9, 0xa, 0xb, 0xc, 0xd, 0x1c, 0x1d, 0x1e, 0x1f, 0x20, 0x85, 0xa0, 0x1680, 0x2000, 0x2001, 0x2002,
    0x2003, 0x2004, 0x2005, 0x2006, 0x2007, 0x2008, 0x2009, 0x200a, 0x2028, 0x2029, 0x202f, 0x205f,
    0x3000]

theorem toNat_mem_blankCodes {c : Char} (blank : isBlank c = true) : c.toNat ∈ blankCodes := by
  simp only [isBlank, Bool.or_eq_true, Bool.and_eq_true, decide_eq_true_eq, beq_iff_eq] at blank
  simp only [blankCodes, List.mem_cons, List.not_mem_nil, or_false]
  omega

/-- What holds of every listed blank holds of every blank. -/
theorem forall_blank {P : Char → Prop} (all : ∀ n ∈ blankCodes, P (Char.ofNat n)) {c : Char}
    (blank : isBlank c = true) : P c := by
  have listed := all c.toNat (toNat_mem_blankCodes blank)
  rwa [Char.ofNat_toNat] at listed

/-- A blank is no digit, no character of a word or a name, and nothing that may stand in a
number. -/
theorem isBlank_excludes {c : Char} (blank : isBlank c = true) :
    isDigit c = false ∧ isWord c = false ∧ Lexeme.continuesName c = false ∧ c ≠ '.' ∧ c ≠ 'e' ∧
      c ≠ 'E' :=
  forall_blank (P := fun c => isDigit c = false ∧ isWord c = false ∧
    Lexeme.continuesName c = false ∧ c ≠ '.' ∧ c ≠ 'e' ∧ c ≠ 'E') (by decide +kernel) blank

theorem isBlank_of_isDigit {c : Char} (digit : isDigit c = true) : isBlank c = false := by
  cases blank : isBlank c with
  | false => rfl
  | true => exact absurd digit (by simp [(isBlank_excludes blank).1])

end PhpHooks.Text

namespace PhpHooks.Lexeme

open Text (isBlank isDigit isWord)

/-- Characters that end a name or a number in front of them. -/
def separates (c : Char) : Bool :=
  isBlank c || isMark c

def marks : List Char :=
  ['|', '&', '?', '(', ')', '<', '>', '\x7b', '\x7d', '[', ']', ',', ':']

theorem mem_marks {c : Char} (mark : isMark c = true) : c ∈ marks := by
  simpa [isMark, marks, or_assoc] using mark

/-- What holds of every listed mark holds of every mark. -/
theorem forall_mark {P : Char → Prop} (all : ∀ n ∈ marks.map Char.toNat, P (Char.ofNat n))
    {c : Char} (mark : isMark c = true) : P c := by
  have listed := all c.toNat (List.mem_map_of_mem (mem_marks mark))
  rwa [Char.ofNat_toNat] at listed

/-- A separator is none of the characters that a token in front of it could go on with. -/
theorem separates_excludes {c : Char} (separator : separates c = true) :
    isDigit c = false ∧ isWord c = false ∧ continuesName c = false ∧ c ≠ '.' ∧ c ≠ 'e' ∧
      c ≠ 'E' := by
  rw [separates, Bool.or_eq_true] at separator
  rcases separator with blank | mark
  · exact Text.isBlank_excludes blank
  · exact forall_mark (P := fun c => isDigit c = false ∧ isWord c = false ∧
      continuesName c = false ∧ c ≠ '.' ∧ c ≠ 'e' ∧ c ≠ 'E') (by decide) mark

end PhpHooks.Lexeme
