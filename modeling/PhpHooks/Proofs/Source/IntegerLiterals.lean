import PhpHooks.Proofs.Number.PlaceValue
import PhpHooks.Source.Literal
import PhpHooks.Text.Word

set_option autoImplicit false

/-!
Integer literals and the numbers that they spell. Each notation is told by what stands in front of
the digits, and a text of letters and digits that is in none of the notations is no literal.
-/
namespace PhpHooks.Text

/-- What holds of every listed character holds of every ASCII character. -/
theorem forall_ascii {P : Char → Prop} (all : ∀ n < 128, P (Char.ofNat n)) {c : Char}
    (ascii : c.toNat < 128) : P c := by
  have listed := all c.toNat ascii
  rwa [Char.ofNat_toNat] at listed

theorem lowerAfter_of_ascii (before : Text) {t : Text} (ascii : ∀ c ∈ t, c.toNat < 128) :
    lowerAfter before t = t.map Char.toLower := by
  induction t generalizing before with
  | nil => rfl
  | cons c t ih =>
      rw [List.forall_mem_cons] at ascii
      have alone : lowerChar c = [c.toLower] :=
        forall_ascii (P := fun c => lowerChar c = [c.toLower]) (by decide) ascii.1
      have other : ¬ (c.toNat == 0x3a3) = true := by
        rw [beq_iff_eq]
        omega
      simp only [lowerAfter, other, Bool.false_and, Bool.false_eq_true, ↓reduceIte, alone,
        ih (c :: before) ascii.2, List.map_cons, List.singleton_append]

/-- Letters of ASCII have their lower case one by one. -/
theorem lower_of_ascii {t : Text} (ascii : ∀ c ∈ t, c.toNat < 128) :
    lower t = t.map Char.toLower :=
  lowerAfter_of_ascii [] ascii

end PhpHooks.Text

namespace PhpHooks.Source

open Numeral (Denotes IsDigit)

/-- What stands behind a zero for each base, in either case. -/
def baseMarks : List (Char × Nat) :=
  [('x', 16), ('X', 16), ('b', 2), ('B', 2), ('o', 8), ('O', 8)]

/-- `t` spells `n`: behind the mark of a base, behind a zero as an octal number, or as a decimal
number of at most 4300 digits that does not begin with a zero unless it is one. -/
inductive SpellsInteger : Text → Nat → Prop
  | marked {mark : Char} {base : Nat} {digits : Text} {n : Nat} (known : (mark, base) ∈ baseMarks)
      (numeral : Denotes base digits n) : SpellsInteger ('0' :: mark :: digits) n
  | octal {digits : Text} {n : Nat} (numeral : Denotes 8 digits n) :
      SpellsInteger ('0' :: digits) n
  | zero : SpellsInteger ['0'] 0
  | decimal {c : Char} {digits : Text} {n : Nat} (leading : c ≠ '0')
      (numeral : Denotes 10 (c :: digits) n) (short : (c :: digits).length ≤ 4300) :
      SpellsInteger (c :: digits) n

section Shapes

variable {c mark : Char} {base n : Nat} {digits : Text}

theorem marked_not_octal (known : (mark, base) ∈ baseMarks) (digits : Text) (n : Nat) :
    ¬ Denotes 8 (mark :: digits) n := by
  rintro ⟨-, values, each, -⟩
  obtain ⟨d, others, first, -, -⟩ := List.forall₂_cons_left_iff.mp each
  have other : ∀ entry ∈ baseMarks, entry.1 ≠ mark :=
    first.of_both (P := fun c => ∀ entry ∈ baseMarks, entry.1 ≠ c) (by decide)
  exact other _ known rfl

theorem base_unique {other : Nat} (known : (mark, base) ∈ baseMarks)
    (also : (mark, other) ∈ baseMarks) : other = base := by
  have each : ∀ entry ∈ baseMarks, ∀ second ∈ baseMarks, entry.1 = second.1 →
      second.2 = entry.2 := by decide
  exact each _ known _ also rfl

theorem baseMarks_bounds (known : (mark, base) ∈ baseMarks) : 1 < base ∧ base ≤ 16 := by
  have each : ∀ entry ∈ baseMarks, 1 < entry.2 ∧ entry.2 ≤ 16 := by decide
  exact each _ known

theorem spellsInteger_marked (known : (mark, base) ∈ baseMarks) :
    SpellsInteger ('0' :: mark :: digits) n ↔ Denotes base digits n := by
  constructor
  · intro spelled
    cases spelled with
    | marked also numeral => rwa [base_unique known also] at numeral
    | octal numeral => exact absurd numeral (marked_not_octal known _ _)
    | decimal leading _ _ => exact absurd rfl leading
  · exact .marked known

theorem spellsInteger_octal (unmarked : ∀ base, (c, base) ∉ baseMarks) :
    SpellsInteger ('0' :: c :: digits) n ↔ Denotes 8 (c :: digits) n := by
  constructor
  · intro spelled
    cases spelled with
    | marked known _ => exact absurd known (unmarked _)
    | octal numeral => exact numeral
    | decimal leading _ _ => exact absurd rfl leading
  · exact .octal

theorem spellsInteger_zero : SpellsInteger ['0'] n ↔ n = 0 := by
  constructor
  · intro spelled
    cases spelled with
    | octal numeral => exact absurd rfl numeral.1
    | zero => rfl
    | decimal leading _ _ => exact absurd rfl leading
  · rintro rfl
    exact .zero

theorem spellsInteger_decimal (leading : c ≠ '0') :
    SpellsInteger (c :: digits) n ↔
      Denotes 10 (c :: digits) n ∧ (c :: digits).length ≤ 4300 := by
  constructor
  · intro spelled
    cases spelled with
    | marked _ _ => exact absurd rfl leading
    | octal _ => exact absurd rfl leading
    | zero => exact absurd rfl leading
    | decimal _ numeral short => exact ⟨numeral, short⟩
  · intro ⟨numeral, short⟩
    exact .decimal leading numeral short

end Shapes

section Reading

def isAlphanumeric (c : Char) : Bool :=
  Text.isAsciiLetter c || Text.isAsciiDigit c

/-- ASCII letters, digits and underscores. -/
def isLiteralChar (c : Char) : Bool :=
  isAlphanumeric c || c == '_'

variable {c mark : Char} {base : Nat} {digits s : Text}

theorem isAlphanumeric_lt (plain : isAlphanumeric c = true) : c.toNat < 128 := by
  simp only [isAlphanumeric, Text.isAsciiLetter, Text.isAsciiDigit, Bool.or_eq_true,
    Bool.and_eq_true, decide_eq_true_eq, Char.le_def, UInt32.le_iff_toNat_le] at plain
  have same : c.toNat = c.val.toNat := rfl
  simp at plain
  omega

/-- Letters and digits are no padding and no signs, and lower case makes no zeros. -/
theorem isAlphanumeric_toLower (plain : isAlphanumeric c = true) :
    Numeral.isPadding c.toLower = false ∧ c.toLower ≠ '-' ∧ c.toLower ≠ '+' ∧
      (c.toLower = '0' → c = '0') :=
  Text.forall_ascii (P := fun c => isAlphanumeric c = true → Numeral.isPadding c.toLower = false ∧
    c.toLower ≠ '-' ∧ c.toLower ≠ '+' ∧ (c.toLower = '0' → c = '0')) (by decide)
    (isAlphanumeric_lt plain) plain

/-- Lower case makes the mark of a base from a mark of that base only. -/
theorem mem_baseMarks_of_toLower (ascii : c.toNat < 128) (known : (c.toLower, base) ∈ baseMarks) :
    (c, base) ∈ baseMarks := by
  have each : ∀ n < 128, ∀ entry ∈ baseMarks, (Char.ofNat n).toLower = entry.1 →
      (Char.ofNat n, entry.2) ∈ baseMarks := by decide
  have listed := each c.toNat ascii _ known
  rw [Char.ofNat_toNat] at listed
  exact listed rfl

theorem isPadding_of_mem (plain : ∀ c ∈ s, isAlphanumeric c = true) :
    ∀ c ∈ s.map Char.toLower, Numeral.isPadding c = false := by
  intro c inside
  obtain ⟨d, member, rfl⟩ := List.mem_map.mp inside
  exact (isAlphanumeric_toLower (plain d member)).1

theorem dropWhile_eq_self {p : Char → Bool} {t : Text} (none : ∀ c ∈ t, p c = false) :
    t.dropWhile p = t := by
  cases t with
  | nil => rfl
  | cons c t => exact List.dropWhile_cons_of_neg (by simp [none c List.mem_cons_self])

theorem trimPaddingEnd_eq_self {t : Text} (ink : ∀ c ∈ t, Numeral.isPadding c = false) :
    Numeral.trimPaddingEnd t = t := by
  have stays : t.reverse.dropWhile Numeral.isPadding = t.reverse :=
    dropWhile_eq_self fun c inside => ink c (List.mem_reverse.mp inside)
  rw [Numeral.trimPaddingEnd, stays, List.reverse_reverse]

theorem marked?_toLower (plain : ∀ c ∈ s, isAlphanumeric c = true) (base : Nat) :
    marked? base (s.map Char.toLower) =
      (Numeral.natural? base (s.map Char.toLower)).map Int.ofNat := by
  rw [marked?, trimPaddingEnd_eq_self (isPadding_of_mem plain)]

theorem decimal?_toLower (plain : ∀ c ∈ s, isAlphanumeric c = true) :
    decimal? (s.map Char.toLower) =
      if 4300 < s.length then none
      else (Numeral.natural? 10 (s.map Char.toLower)).map Int.ofNat := by
  have ink := isPadding_of_mem plain
  have trimmed : Numeral.trimPadding (s.map Char.toLower) = s.map Char.toLower := by
    rw [Numeral.trimPadding, dropWhile_eq_self ink, trimPaddingEnd_eq_self ink]
  have unsigned : Numeral.splitSign (s.map Char.toLower) = (false, s.map Char.toLower) := by
    cases s with
    | nil => rfl
    | cons c s =>
        have first := isAlphanumeric_toLower (plain c List.mem_cons_self)
        simp [Numeral.splitSign, first]
  simp only [decimal?, trimmed, unsigned, List.length_map, Numeral.maxDigits]
  rfl

/-- Only the text without underscores is read, and in lower case. -/
theorem lower_without {t : Text} (plain : ∀ c ∈ t, isLiteralChar c = true) :
    (∀ c ∈ Text.without '_' t, isAlphanumeric c = true) ∧
      Text.lower (Text.without '_' t) = (Text.without '_' t).map Char.toLower := by
  have clean : ∀ c ∈ Text.without '_' t, isAlphanumeric c = true := by
    intro c inside
    rw [Text.without, List.mem_filter, bne_iff_ne] at inside
    have literal := plain c inside.1
    rw [isLiteralChar, Bool.or_eq_true, beq_iff_eq] at literal
    exact literal.resolve_right inside.2
  exact ⟨clean, Text.lower_of_ascii fun c inside => isAlphanumeric_lt (clean c inside)⟩

variable {t : Text} (plain : ∀ c ∈ t, isLiteralChar c = true)

include plain

theorem integer?_marked (cleaned : Text.without '_' t = '0' :: mark :: digits)
    (known : (mark, base) ∈ baseMarks) :
    integer? t = (Numeral.natural? base (digits.map Char.toLower)).map Int.ofNat := by
  obtain ⟨clean, lowered⟩ := lower_without plain
  rw [cleaned] at clean lowered
  have behind : ∀ c ∈ digits, isAlphanumeric c = true := fun c inside =>
    clean c (List.mem_cons_of_mem _ (List.mem_cons_of_mem _ inside))
  rw [integer?, cleaned, lowered, ← marked?_toLower behind]
  simp only [baseMarks, List.mem_cons, Prod.mk.injEq, List.not_mem_nil, or_false] at known
  rcases known with ⟨rfl, rfl⟩ | ⟨rfl, rfl⟩ | ⟨rfl, rfl⟩ | ⟨rfl, rfl⟩ | ⟨rfl, rfl⟩ | ⟨rfl, rfl⟩ <;>
    rfl

theorem integer?_octal (cleaned : Text.without '_' t = '0' :: c :: digits)
    (unmarked : ∀ base, (c, base) ∉ baseMarks) :
    integer? t = (Numeral.natural? 8 (('0' :: c :: digits).map Char.toLower)).map Int.ofNat := by
  obtain ⟨clean, lowered⟩ := lower_without plain
  rw [cleaned] at clean lowered
  have ascii : c.toNat < 128 :=
    isAlphanumeric_lt (clean c (List.mem_cons_of_mem _ List.mem_cons_self))
  have apart : ∀ letter base more, (letter, base) ∈ baseMarks →
      ('0' :: c :: digits).map Char.toLower ≠ '0' :: letter :: more := by
    intro letter base more known same
    rw [List.map_cons, List.map_cons, List.cons.injEq, List.cons.injEq] at same
    rw [← same.2.1] at known
    exact unmarked base (mem_baseMarks_of_toLower ascii known)
  rw [integer?, cleaned, lowered, ← marked?_toLower clean]
  split
  · next more same => exact absurd same (apart 'x' 16 more (by decide))
  · next more same => exact absurd same (apart 'b' 2 more (by decide))
  · next more same => exact absurd same (apart 'o' 8 more (by decide))
  · next same => rw [same]
  · next none => exact (none _ _ rfl).elim

theorem integer?_decimal (cleaned : Text.without '_' t = c :: digits)
    (leading : c = '0' → digits = []) :
    integer? t =
      if 4300 < (c :: digits).length then none
      else (Numeral.natural? 10 ((c :: digits).map Char.toLower)).map Int.ofNat := by
  obtain ⟨clean, lowered⟩ := lower_without plain
  rw [cleaned] at clean lowered
  have apart : ∀ d more, (c :: digits).map Char.toLower ≠ '0' :: d :: more := by
    intro d more same
    rw [List.map_cons, List.cons.injEq] at same
    have zero := (isAlphanumeric_toLower (clean c List.mem_cons_self)).2.2.2 same.1
    rw [leading zero] at same
    cases same.2
  rw [integer?, cleaned, lowered, ← decimal?_toLower clean]
  split
  · next same => exact absurd same (apart _ _)
  · next same => exact absurd same (apart _ _)
  · next same => exact absurd same (apart _ _)
  · next same => exact absurd same (apart _ _)
  · rfl

/-- What is read is what is spelled, notation by notation. -/
theorem exists_integer?_eq :
    ∃ read : Option Nat, integer? t = read.map Int.ofNat ∧
      ∀ n, read = some n ↔ SpellsInteger (Text.without '_' t) n := by
  obtain ⟨clean, lowered⟩ := lower_without plain
  have ascii : ∀ c ∈ Text.without '_' t, c.toNat < 128 := fun c inside =>
    isAlphanumeric_lt (clean c inside)
  cases cleaned : Text.without '_' t with
  | nil =>
      refine ⟨none, ?_, ?_⟩
      · rw [integer?, cleaned]
        rfl
      · intro n
        constructor
        · intro read
          cases read
        · intro spelled
          cases spelled
  | cons c rest =>
      rw [cleaned] at ascii
      by_cases zero : c = '0'
      · subst zero
        cases rest with
        | nil =>
            refine ⟨some 0, integer?_decimal plain cleaned (fun _ => rfl), ?_⟩
            intro n
            rw [spellsInteger_zero, Option.some.injEq, eq_comm]
        | cons mark digits =>
            by_cases known : ∃ base, (mark, base) ∈ baseMarks
            · obtain ⟨base, known⟩ := known
              have small := (baseMarks_bounds known).2
              have behind : ∀ c ∈ digits, c.toNat < 128 := fun c inside =>
                ascii c (List.mem_cons_of_mem _ (List.mem_cons_of_mem _ inside))
              refine ⟨_, integer?_marked plain cleaned known, ?_⟩
              intro n
              rw [Numeral.natural?_toLower small behind, spellsInteger_marked known]
            · have unmarked : ∀ base, (mark, base) ∉ baseMarks := by simpa using known
              refine ⟨_, integer?_octal plain cleaned unmarked, ?_⟩
              intro n
              rw [Numeral.natural?_toLower (by decide) ascii,
                Numeral.denotes_zero_cons (by decide) (by decide) (List.cons_ne_nil _ _),
                spellsInteger_octal unmarked]
      · refine ⟨_, (integer?_decimal plain cleaned (fun same => absurd same zero)).trans
          (apply_ite (Option.map Int.ofNat) _ none _).symm, ?_⟩
        intro n
        rw [spellsInteger_decimal zero, ← Numeral.natural?_toLower (by decide) ascii]
        by_cases long : 4300 < (c :: rest).length
        · rw [if_pos long]
          constructor
          · intro read
            cases read
          · intro spelled
            omega
        · rw [if_neg long]
          constructor
          · intro read
            exact ⟨read, by omega⟩
          · intro spelled
            exact spelled.1

end Reading

section Numerals

variable {t : Text} {n : Nat}

theorem isAlphanumeric_of_denotes {base : Nat} (small : base ≤ 16) (numeral : Denotes base t n) :
    ∀ c ∈ t, isAlphanumeric c = true := by
  have listed : ∀ d < 16, isAlphanumeric d.digitChar = true ∧
      isAlphanumeric d.digitChar.toUpper = true := by decide
  obtain ⟨-, digits, each, -⟩ := numeral
  apply Numeral.forall_mem_of_digits (P := fun c => isAlphanumeric c = true) each
  intro d below
  exact listed d (Nat.lt_of_lt_of_le below small)

theorem SpellsInteger.isAlphanumeric (spelled : SpellsInteger t n) :
    ∀ c ∈ t, Source.isAlphanumeric c = true := by
  have zero : Source.isAlphanumeric '0' = true := by decide
  have marks : ∀ entry ∈ baseMarks, Source.isAlphanumeric entry.1 = true := by decide
  cases spelled with
  | marked known numeral =>
      have digits := isAlphanumeric_of_denotes (baseMarks_bounds known).2 numeral
      exact List.forall_mem_cons.mpr ⟨zero, List.forall_mem_cons.mpr ⟨marks _ known, digits⟩⟩
  | octal numeral =>
      have digits := isAlphanumeric_of_denotes (by decide) numeral
      exact List.forall_mem_cons.mpr ⟨zero, digits⟩
  | zero => exact List.forall_mem_singleton.mpr zero
  | decimal _ numeral _ => exact isAlphanumeric_of_denotes (by decide) numeral

/-- A spelled number is read without any condition on its characters. -/
theorem SpellsInteger.integer?_eq (spelled : SpellsInteger t n) : integer? t = some (n : Int) := by
  have plain : ∀ c ∈ t, isLiteralChar c = true := by
    intro c inside
    rw [isLiteralChar, spelled.isAlphanumeric c inside, Bool.true_or]
  have whole : Text.without '_' t = t := by
    apply List.filter_eq_self.mpr
    intro c inside
    rw [bne_iff_ne]
    rintro rfl
    exact absurd (spelled.isAlphanumeric _ inside) (by decide)
  obtain ⟨read, same, reads⟩ := exists_integer?_eq plain
  rw [whole] at reads
  rw [same, (reads n).mpr spelled]
  rfl

theorem head_toDigits (positive : 0 < n) :
    ∃ c digits, Nat.toDigits 10 n = c :: digits ∧ c ≠ '0' := by
  induction n using Nat.strongRecOn with
  | ind n ih =>
      rw [Nat.toDigits_eq_if (by decide)]
      by_cases single : n < 10
      · have listed : ∀ d < 10, 0 < d → d.digitChar ≠ '0' := by decide
        exact ⟨n.digitChar, [], if_pos single, listed n single positive⟩
      · obtain ⟨c, digits, begins, leading⟩ := ih (n / 10) (by omega) (by omega)
        refine ⟨c, digits ++ [(n % 10).digitChar], ?_, leading⟩
        rw [if_neg single, begins, List.cons_append]

theorem spellsInteger_toDigits (short : (Nat.toDigits 10 n).length ≤ 4300) :
    SpellsInteger (Nat.toDigits 10 n) n := by
  by_cases zero : n = 0
  · subst zero
    exact .zero
  · have numeral : Numeral.Denotes 10 (Nat.toDigits 10 n) n :=
      Numeral.denotes_toDigits (by decide) n
    obtain ⟨c, digits, begins, leading⟩ := head_toDigits (Nat.pos_of_ne_zero zero)
    rw [begins] at numeral short ⊢
    exact .decimal leading numeral short

end Numerals

/-- A literal is read as the number that it spells and as nothing if it spells none, and every
number is read from its numeral in each notation. -/
theorem integer_literals_read :
    (∀ t : Text, (∀ c ∈ t, isLiteralChar c = true) →
      (∀ n : Int, integer? t = some n ↔ ∃ m : Nat, n = m ∧ SpellsInteger (Text.without '_' t) m) ∧
      ((∀ m, ¬ SpellsInteger (Text.without '_' t) m) → integer? t = none)) ∧
    ∀ n : Nat,
      (∀ mark base, (mark, base) ∈ baseMarks →
        integer? ('0' :: mark :: Nat.toDigits base n) = some (n : Int)) ∧
      integer? ('0' :: Nat.toDigits 8 n) = some (n : Int) ∧
      ((Nat.toDigits 10 n).length ≤ 4300 → integer? (Nat.toDigits 10 n) = some (n : Int)) := by
  refine ⟨?_, ?_⟩
  · intro t plain
    obtain ⟨read, same, reads⟩ := exists_integer?_eq plain
    refine ⟨?_, ?_⟩
    · intro n
      rw [same, Option.map_eq_some_iff]
      constructor
      · intro ⟨m, found, value⟩
        exact ⟨m, value.symm, (reads m).mp found⟩
      · intro ⟨m, value, spelled⟩
        exact ⟨m, (reads m).mpr spelled, value.symm⟩
    · intro unspelled
      cases found : read with
      | none => rw [same, found, Option.map_none]
      | some m => exact absurd ((reads m).mp found) (unspelled m)
  · intro n
    refine ⟨?_, ?_, ?_⟩
    · intro mark base known
      have numeral := Numeral.denotes_toDigits (baseMarks_bounds known).1 n
      exact (SpellsInteger.marked known numeral).integer?_eq
    · have numeral : Numeral.Denotes 8 (Nat.toDigits 8 n) n :=
        Numeral.denotes_toDigits (by decide) n
      exact (SpellsInteger.octal numeral).integer?_eq
    · intro short
      exact (spellsInteger_toDigits short).integer?_eq

/-- Underscores in a hexadecimal literal, and a digit that is not octal behind a zero. -/
theorem integer_literals_read_mixed :
    integer? "0_Xf_F".toList = some 255 ∧ integer? "0_8".toList = none := by
  have spelled : SpellsInteger "0XfF".toList 255 := by
    have hexadecimal : ('X', 16) ∈ baseMarks := by decide
    refine .marked hexadecimal ⟨by decide, [15, 15], ?_, by decide⟩
    exact .cons ⟨by decide, .inl rfl⟩ (.cons ⟨by decide, .inr rfl⟩ .nil)
  have unspelled : ∀ m, ¬ SpellsInteger ['0', '8'] m := by
    intro m spelled
    obtain ⟨-, digits, each, -⟩ := (spellsInteger_octal (by simp [baseMarks])).mp spelled
    obtain ⟨d, others, first, -, -⟩ := List.forall₂_cons_left_iff.mp each
    have listed : ∀ d < 8, ¬ ('8' = d.digitChar ∨ '8' = d.digitChar.toUpper) := by decide
    exact listed d first.1 first.2
  obtain ⟨reading, -⟩ := integer_literals_read
  have mixed := reading "0_Xf_F".toList (List.all_eq_true.mp (by decide))
  have stray := reading "0_8".toList (List.all_eq_true.mp (by decide))
  exact ⟨(mixed.1 255).mpr ⟨255, rfl, spelled⟩, stray.2 unspelled⟩

end PhpHooks.Source
