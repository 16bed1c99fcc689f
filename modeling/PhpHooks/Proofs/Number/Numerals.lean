import Mathlib.Algebra.Group.Nat.Defs
import PhpHooks.Number.Numeral

set_option autoImplicit false

/-!
Numerals and their values: a numeral is as long as its value needs, and the decimal numeral of a
natural number has that number as its value.
-/
namespace PhpHooks.Numeral

theorem ofDigits_append_singleton (base : Nat) (digits : List Nat) (digit : Nat) :
    ofDigits base (digits ++ [digit]) = ofDigits base digits * base + digit := by
  simp [ofDigits, List.foldl_append]

theorem foldl_digits_lt {base : Nat} (digits : List Nat) (start bound : Nat)
    (small : ∀ digit ∈ digits, digit < base) (below : start < bound) :
    digits.foldl (fun value digit => value * base + digit) start <
      bound * base ^ digits.length := by
  induction digits generalizing start bound with
  | nil => simpa using below
  | cons digit digits ih =>
      have first : digit < base := small digit List.mem_cons_self
      have next : start * base + digit < bound * base := by
        have room : (start + 1) * base ≤ bound * base := Nat.mul_le_mul_right base below
        rw [Nat.add_mul, Nat.one_mul] at room
        omega
      have all := ih (start * base + digit) (bound * base)
        (fun other inside => small other (List.mem_cons_of_mem digit inside)) next
      rw [List.foldl_cons, List.length_cons, Nat.pow_succ, Nat.mul_comm (base ^ digits.length),
        ← Nat.mul_assoc]
      exact all

theorem ofDigits_lt {base : Nat} (digits : List Nat) (small : ∀ digit ∈ digits, digit < base) :
    ofDigits base digits < base ^ digits.length := by
  have bounded := foldl_digits_lt digits 0 1 small (by decide)
  rwa [Nat.one_mul] at bounded

theorem digit?_lt {base : Nat} {c : Char} {value : Nat} (read : digit? base c = some value) :
    value < base := by
  rw [digit?, Option.filter_eq_some_iff] at read
  simpa using read.2

theorem digits?_spec {base : Nat} {t : Text} {values : List Nat}
    (read : digits? base t = some values) :
    values.length = t.length ∧ ∀ value ∈ values, value < base := by
  induction t generalizing values with
  | nil =>
      rw [digits?, Option.some.injEq] at read
      subst read
      simp
  | cons c t ih =>
      rw [digits?] at read
      split at read
      · next value others first rest =>
          rw [Option.some.injEq] at read
          subst read
          obtain ⟨length, small⟩ := ih rest
          refine ⟨by simp [length], ?_⟩
          exact List.forall_mem_cons.mpr ⟨digit?_lt first, small⟩
      · cases read

/-- A numeral of `k` digits stays below the `k`-th power of the base. -/
theorem natural?_lt {base : Nat} {t : Text} {n : Nat} (read : natural? base t = some n) :
    n < base ^ t.length := by
  rw [natural?] at read
  split at read
  · cases read
  · obtain ⟨values, digits, rfl⟩ := Option.map_eq_some_iff.mp read
    obtain ⟨length, small⟩ := digits?_spec digits
    rw [← length]
    exact ofDigits_lt values small

theorem digits?_append (base : Nat) (s t : Text) {first second : List Nat}
    (front : digits? base s = some first) (back : digits? base t = some second) :
    digits? base (s ++ t) = some (first ++ second) := by
  induction s generalizing first with
  | nil =>
      rw [digits?, Option.some.injEq] at front
      subst front
      exact back
  | cons c s ih =>
      rw [digits?] at front
      split at front
      · next value others head rest =>
          rw [Option.some.injEq] at front
          subst front
          simp only [List.cons_append, digits?, head, ih rest]
      · cases front

theorem digit?_digitChar {n : Nat} (small : n < 10) : digit? 10 n.digitChar = some n := by
  have all : ∀ m < 10, digit? 10 m.digitChar = some m := by decide
  exact all n small

theorem digits?_ofNat (n : Nat) :
    ∃ values, digits? 10 (Text.ofNat n) = some values ∧ ofDigits 10 values = n := by
  induction n using Nat.strongRecOn with
  | ind n ih =>
      rw [Text.ofNat, Nat.toDigits_eq_if (by decide)]
      by_cases small : n < 10
      · rw [if_pos small]
        refine ⟨[n], ?_, ?_⟩
        · simp [digits?, digit?_digitChar small]
        · simp [ofDigits]
      · rw [if_neg small]
        obtain ⟨values, read, value⟩ := ih (n / 10) (by omega)
        have last : digits? 10 [(n % 10).digitChar] = some [n % 10] := by
          simp [digits?, digit?_digitChar (Nat.mod_lt n (by decide))]
        refine ⟨values ++ [n % 10], digits?_append 10 _ _ read last, ?_⟩
        rw [ofDigits_append_singleton, value]
        omega

/-- The decimal numeral of a number is read as that number. -/
theorem natural?_ofNat (n : Nat) : natural? 10 (Text.ofNat n) = some n := by
  obtain ⟨values, read, value⟩ := digits?_ofNat n
  have filled : (Text.ofNat n).isEmpty = false := by simp [Text.ofNat]
  simp [natural?, filled, read, value]

theorem length_ofNat_le {n k : Nat} (positive : 0 < k) (below : n < 10 ^ k) :
    (Text.ofNat n).length ≤ k :=
  (Nat.length_toDigits_le_iff (by decide) positive).mpr below

theorem isDigit_of_mem_ofNat {n : Nat} {c : Char} (inside : c ∈ Text.ofNat n) :
    Text.isDigit c = true := by
  have ascii := Nat.isDigit_of_mem_toDigits (by decide) (by decide) inside
  have bounds : 48 ≤ c.toNat ∧ c.toNat ≤ 57 := by
    simpa [Char.isDigit, UInt32.le_iff_toNat_le] using ascii
  have all : ∀ m < 58, 48 ≤ m → Text.isDigit (Char.ofNat m) = true := by decide
  have listed := all c.toNat (by omega) bounds.1
  rwa [Char.ofNat_toNat] at listed

theorem ofNat_ne_nil (n : Nat) : Text.ofNat n ≠ [] := by
  simp [Text.ofNat]

/-- A numeral begins with no sign. -/
theorem head_ofNat (n : Nat) : ∃ c tail, Text.ofNat n = c :: tail ∧ c ≠ '-' ∧ c ≠ '+' := by
  obtain ⟨c, tail, begins⟩ := List.exists_cons_of_ne_nil (ofNat_ne_nil n)
  have digit : Text.isDigit c = true :=
    isDigit_of_mem_ofNat (n := n) (by rw [begins]; exact List.mem_cons_self)
  refine ⟨c, tail, begins, ?_, ?_⟩
  · intro sign
    rw [sign] at digit
    exact absurd digit (by decide)
  · intro sign
    rw [sign] at digit
    exact absurd digit (by decide)

theorem splitSign_ofInt (n : Int) :
    splitSign (Text.ofInt n) = (decide (n < 0), Text.ofNat n.natAbs) := by
  by_cases negative : n < 0
  · simp [Text.ofInt, negative, splitSign]
  · obtain ⟨c, tail, begins, minus, plus⟩ := head_ofNat n.natAbs
    simp [Text.ofInt, negative, begins, splitSign, minus, plus]

end PhpHooks.Numeral
