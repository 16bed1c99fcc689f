import Mathlib.Data.List.Forall2
import Mathlib.Data.List.Induction
import Mathlib.Data.Nat.Digits.Defs
import PhpHooks.Proofs.Number.Numerals

set_option autoImplicit false

/-!
Place-value notation: what a numeral in a base denotes, and that digits are read as what they
denote, letters in either case.
-/
namespace PhpHooks.Numeral

/-- `c` is the digit `d` of a base, from ten on a letter of either case. -/
def IsDigit (base : Nat) (c : Char) (d : Nat) : Prop :=
  d < base ∧ (c = d.digitChar ∨ c = d.digitChar.toUpper)

/-- `t` is a numeral of `n`: one or more digits, the most significant first. -/
def Denotes (base : Nat) (t : Text) (n : Nat) : Prop :=
  t ≠ [] ∧ ∃ digits, List.Forall₂ (IsDigit base) t digits ∧ Nat.ofDigits base digits.reverse = n

/-- What holds of each digit of a base in both cases holds of whatever is a digit of it. -/
theorem IsDigit.of_both {P : Char → Prop} {base d : Nat} {c : Char} (digit : IsDigit base c d)
    (both : ∀ d < base, P d.digitChar ∧ P d.digitChar.toUpper) : P c := by
  have ⟨lower, upper⟩ := both d digit.1
  rcases digit.2 with same | same
  · rw [same]
    exact lower
  · rw [same]
    exact upper

theorem forall_mem_of_digits {P : Char → Prop} {base : Nat} {t : Text} {digits : List Nat}
    (each : List.Forall₂ (IsDigit base) t digits)
    (both : ∀ d < base, P d.digitChar ∧ P d.digitChar.toUpper) : ∀ c ∈ t, P c := by
  induction each with
  | nil => simp
  | cons digit _ ih => exact List.forall_mem_cons.mpr ⟨digit.of_both both, ih⟩

theorem ofDigits_eq (base : Nat) (digits : List Nat) :
    ofDigits base digits = Nat.ofDigits base digits.reverse := by
  induction digits using List.reverseRecOn with
  | nil => rfl
  | append_singleton digits digit ih =>
      rw [ofDigits_append_singleton, ih, List.reverse_append, List.reverse_singleton,
        List.singleton_append, Nat.ofDigits_cons, Nat.mul_comm, Nat.add_comm]

theorem digit?_eq_some_iff {base : Nat} (small : base ≤ 16) {c : Char} {d : Nat} :
    digit? base c = some d ↔ digit? 16 c = some d ∧ d < base := by
  simp only [digit?, Option.filter_eq_some_iff, decide_eq_true_eq]
  constructor
  · rintro ⟨value, below⟩
    exact ⟨⟨value, by omega⟩, below⟩
  · rintro ⟨⟨value, _⟩, below⟩
    exact ⟨value, below⟩

theorem digit?_toLower {c : Char} {d : Nat} (ascii : c.toNat < 128) :
    digit? 16 c.toLower = some d ↔ IsDigit 16 c d := by
  have listed : ∀ n < 128, (digit? 16 (Char.ofNat n).toLower).all (fun d =>
      Char.ofNat n == d.digitChar || Char.ofNat n == d.digitChar.toUpper) = true := by decide
  have digits : ∀ d < 16, digit? 16 d.digitChar.toLower = some d ∧
      digit? 16 d.digitChar.toUpper.toLower = some d := by decide
  constructor
  · intro read
    have either := listed c.toNat ascii
    rw [Char.ofNat_toNat, read] at either
    exact ⟨digit?_lt read, by simpa using either⟩
  · rintro ⟨below, either⟩
    rcases either with rfl | rfl
    · exact (digits d below).1
    · exact (digits d below).2

section Texts

variable {base : Nat} {t : Text}

theorem digits?_toLower (small : base ≤ 16) (ascii : ∀ c ∈ t, c.toNat < 128) (digits : List Nat) :
    digits? base (t.map Char.toLower) = some digits ↔ List.Forall₂ (IsDigit base) t digits := by
  induction t generalizing digits with
  | nil => simp [digits?, eq_comm]
  | cons c t ih =>
      rw [List.forall_mem_cons] at ascii
      have first : ∀ d, digit? base c.toLower = some d ↔ IsDigit base c d := by
        intro d
        rw [digit?_eq_some_iff small, digit?_toLower ascii.1]
        constructor
        · rintro ⟨digit, below⟩
          exact ⟨below, digit.2⟩
        · intro digit
          exact ⟨⟨Nat.lt_of_lt_of_le digit.1 small, digit.2⟩, digit.1⟩
      rw [List.map_cons, digits?, List.forall₂_cons_left_iff]
      constructor
      · intro read
        split at read
        · next d others head tail =>
            rw [Option.some.injEq] at read
            exact ⟨d, others, (first d).mp head, (ih ascii.2 others).mp tail, read.symm⟩
        · cases read
      · rintro ⟨d, others, head, tail, rfl⟩
        rw [(first d).mpr head, (ih ascii.2 others).mpr tail]

/-- The digits of a text are read in either case. -/
theorem natural?_toLower (small : base ≤ 16) (ascii : ∀ c ∈ t, c.toNat < 128) (n : Nat) :
    natural? base (t.map Char.toLower) = some n ↔ Denotes base t n := by
  cases t with
  | nil => simp [natural?, Denotes]
  | cons c t =>
      have read := digits?_toLower small ascii
      simp only [natural?, List.map_cons, List.isEmpty_cons, Bool.false_eq_true, ↓reduceIte,
        Option.map_eq_some_iff, Denotes, ne_eq, List.cons_ne_nil, not_false_eq_true, true_and]
      simp only [List.map_cons] at read
      simp only [read, ofDigits_eq]

/-- A zero in front of other digits does not count. -/
theorem denotes_zero_cons (positive : 0 < base) (small : base ≤ 16) (filled : t ≠ []) (n : Nat) :
    Denotes base ('0' :: t) n ↔ Denotes base t n := by
  have zero : ∀ d < 16, '0' = d.digitChar ∨ '0' = d.digitChar.toUpper → d = 0 := by decide
  constructor
  · rintro ⟨_, digits, each, value⟩
    obtain ⟨d, others, first, rest, rfl⟩ := List.forall₂_cons_left_iff.mp each
    have none : d = 0 := zero d (Nat.lt_of_lt_of_le first.1 small) first.2
    rw [none, Nat.ofDigits_reverse_zero_cons] at value
    exact ⟨filled, others, rest, value⟩
  · rintro ⟨_, digits, each, value⟩
    refine ⟨List.cons_ne_nil _ _, 0 :: digits, .cons ⟨positive, .inl rfl⟩ each, ?_⟩
    rw [Nat.ofDigits_reverse_zero_cons, value]

theorem isDigit_digitChar {n : Nat} (below : n < base) : IsDigit base n.digitChar n :=
  ⟨below, .inl rfl⟩

/-- The digits of a number in a base are a numeral of it. -/
theorem denotes_toDigits (large : 1 < base) (n : Nat) : Denotes base (Nat.toDigits base n) n := by
  induction n using Nat.strongRecOn with
  | ind n ih =>
      rw [Nat.toDigits_eq_if large]
      by_cases single : n < base
      · rw [if_pos single]
        refine ⟨List.cons_ne_nil _ _, [n], .cons (isDigit_digitChar single) .nil, ?_⟩
        rw [List.reverse_singleton, Nat.ofDigits_singleton]
      · rw [if_neg single]
        obtain ⟨_, digits, each, value⟩ := ih (n / base) (Nat.div_lt_self (by omega) large)
        have last := isDigit_digitChar (Nat.mod_lt n (by omega : 0 < base))
        refine ⟨by simp, digits ++ [n % base],
          List.rel_append each (.cons last .nil), ?_⟩
        rw [List.reverse_append, List.reverse_singleton, List.singleton_append, Nat.ofDigits_cons,
          value]
        exact Nat.mod_add_div n base

end Texts

end PhpHooks.Numeral
