import PhpHooks.Proofs.Number.Numerals
import PhpHooks.Proofs.TypeExpr.Acceptance
import PhpHooks.Proofs.TypeExpr.Lexing
import PhpHooks.Proofs.TypeExpr.Structure

set_option autoImplicit false

/-!
The types that expressions spell are well formed at every depth: every union has members and no two
the same, every name is a token that spells a name, and every integer has a numeral that can be
read.
-/
namespace PhpHooks

/-- The lexeme stands for itself: its text is scanned as this lexeme and nothing else. -/
def Lexeme.Whole (lexeme : Lexeme) : Prop :=
  first? lexeme.text = some (lexeme, [])

/-- The union has members and no two the same. -/
def UnionType.Proper (u : UnionType) : Prop :=
  u ≠ [] ∧ u.Distinct

/-- What a parsed atomic type meets apart from what its members meet. -/
def AtomicType.Formed : AtomicType → Prop
  | .named name arguments =>
      Lexeme.Whole ⟨.name, name⟩ ∧ Text.lower name ≠ "true".toList ∧
        Text.lower name ≠ "false".toList ∧ ∀ u ∈ arguments, UnionType.Proper u
  | .literal (.int value) => value.natAbs < 10 ^ Numeral.maxDigits
  | .literal _ => True
  | .shape name items => TypeExpr.isShapeName name = true ∧
      ∀ item ∈ items, UnionType.Proper (ShapeItem.type item)
  | .callable parameters result =>
      (∀ u ∈ parameters, UnionType.Proper u) ∧ ∀ u ∈ result, UnionType.Proper u

/-- The union and all unions inside it are proper, and so is every atomic type. -/
def UnionType.Formed (u : UnionType) : Prop :=
  u.Proper ∧ u.Everywhere AtomicType.Formed

namespace UnionType

theorem proper_singleton (atom : AtomicType) : Proper [atom] :=
  ⟨by simp, List.pairwise_singleton _ _⟩

theorem proper_distinct {u : List AtomicType} (filled : u ≠ []) : (distinct u).Proper :=
  ⟨distinct_ne_nil filled, distinct_distinct u⟩

theorem everywhere_append {P : AtomicType → Prop} {u v : UnionType} (first : u.Everywhere P)
    (second : v.Everywhere P) : Everywhere P (u ++ v) := by
  rw [everywhere_iff] at first second ⊢
  exact List.forall_mem_append.mpr ⟨first, second⟩

theorem formed_distinct {u v : UnionType} (first : u.Formed)
    (second : v.Everywhere AtomicType.Formed) : (distinct (u ++ v)).Formed := by
  refine ⟨proper_distinct ?_, everywhere_distinct (everywhere_append first.2 second)⟩
  simp [first.1.1]

theorem formed_singleton {atom : AtomicType} (formed : atom.Everywhere AtomicType.Formed) :
    Formed [atom] := by
  refine ⟨proper_singleton atom, ?_⟩
  rw [everywhere_iff]
  simpa using formed

theorem formed_literal {value : Literal} (formed : (AtomicType.literal value).Formed) :
    Formed [.literal value] := by
  apply formed_singleton
  rwa [AtomicType.everywhere_literal]

end UnionType

namespace TypeExpr

/-- What the value of a phrase meets. The members behind bars are not yet compared, and what follows
a name relies on the name. -/
def Phrase.Formed : (phrase : Phrase) → phrase.Value → Prop
  | .alternatives, u => UnionType.Everywhere AtomicType.Formed u
  | .arguments, us => ∀ u ∈ us, UnionType.Formed u
  | .parameters, us => ∀ u ∈ us, UnionType.Formed u
  | .items, entries => ∀ item ∈ entries, UnionType.Formed (ShapeItem.type item)
  | .union, u => UnionType.Formed u
  | .member, u => UnionType.Formed u
  | .primary _, u => UnionType.Formed u
  | .named name _, u => Lexeme.Whole ⟨.name, name⟩ → UnionType.Formed u
  | .callable _, u => UnionType.Formed u

/-- An integer that has been read has no more digits than may be read. -/
theorem numberValue_formed {text : Text} {value : Literal} (read : numberValue text = .ok value) :
    (AtomicType.literal value).Formed := by
  simp only [numberValue] at read
  cases found : Numeral.natural? 10 (Numeral.splitSign text).2 with
  | none =>
      simp only [found, Except.ok.injEq] at read
      subst read
      trivial
  | some n =>
      simp only [found] at read
      split at read
      · cases read
      · next short =>
          rw [Except.ok.injEq] at read
          subst read
          have magnitude : (Numeral.signed (Numeral.splitSign text).1 n).natAbs = n := by
            rw [Numeral.signed]
            split <;> omega
          show (Numeral.signed (Numeral.splitSign text).1 n).natAbs < 10 ^ Numeral.maxDigits
          rw [magnitude]
          calc n < 10 ^ (Numeral.splitSign text).2.length := Numeral.natural?_lt found
            _ ≤ 10 ^ Numeral.maxDigits := Nat.pow_le_pow_right (by decide) (Nat.le_of_not_lt short)

theorem arraysOf_formed {u : UnionType} (count : Nat) (formed : u.Formed) :
    (arraysOf count u).Formed := by
  induction count generalizing u with
  | zero => exact formed
  | succ count ih =>
      apply ih
      apply UnionType.formed_singleton
      rw [AtomicType.everywhere_named]
      refine ⟨⟨rfl, by decide, by decide, ?_⟩, ?_⟩
      · simpa using formed.1
      · simpa using formed.2

theorem null_formed : (AtomicType.named "null".toList []).Everywhere AtomicType.Formed := by
  rw [AtomicType.everywhere_named]
  exact ⟨⟨rfl, by decide, by decide, by simp⟩, by simp⟩

/-- A derived phrase has a well-formed value if its tokens stand for themselves. -/
theorem Derives.formed {greedy : Bool} {phrase : Phrase} {tokens : List Lexeme}
    {value : phrase.Value} (derived : Derives greedy phrase tokens value)
    (whole : ∀ token ∈ tokens, token.Whole) : phrase.Formed value := by
  induction derived with
  | union first others ihFirst ihOthers =>
      rw [List.forall_mem_append] at whole
      exact UnionType.formed_distinct (ihFirst whole.1) (ihOthers whole.2)
  | alternativesNone =>
      show UnionType.Everywhere AtomicType.Formed []
      simp [UnionType.everywhere_iff]
  | alternativesMore first others ihFirst ihOthers =>
      rw [List.forall_mem_cons, List.forall_mem_append] at whole
      exact UnionType.everywhere_append (ihFirst whole.2.1).2 (ihOthers whole.2.2)
  | member count inner _ ih =>
      rw [List.forall_mem_append] at whole
      exact arraysOf_formed count (ih whole.1)
  | nullable inner ih =>
      rw [List.forall_mem_cons] at whole
      exact UnionType.formed_distinct (ih whole.2) (UnionType.formed_singleton null_formed).2
  | group inner ih =>
      rw [List.forall_mem_cons, List.forall_mem_append] at whole
      exact ih whole.2.1
  | string text => exact UnionType.formed_literal trivial
  | number read => exact UnionType.formed_literal (numberValue_formed read)
  | name inner ih =>
      rw [List.forall_mem_cons] at whole
      exact ih whole.2 whole.1
  | truth _ => exact fun _ => UnionType.formed_literal trivial
  | falsity _ => exact fun _ => UnionType.formed_literal trivial
  | shape shapeName items ih =>
      intro _
      rw [List.forall_mem_cons] at whole
      apply UnionType.formed_singleton
      rw [AtomicType.everywhere_shape]
      exact ⟨⟨shapeName, fun item inside => (ih whole.2 item inside).1⟩,
        fun item inside => (ih whole.2 item inside).2⟩
  | callableName _ inner ih =>
      intro _
      rw [List.forall_mem_cons] at whole
      exact ih whole.2
  | generic noTruth noFalsity arguments ih =>
      intro spelled
      rw [List.forall_mem_cons, List.forall_mem_append] at whole
      have each := ih whole.2.1
      apply UnionType.formed_singleton
      rw [AtomicType.everywhere_named]
      exact ⟨⟨spelled, noTruth, noFalsity, fun u inside => (each u inside).1⟩,
        fun u inside => (each u inside).2⟩
  | plain noTruth noFalsity =>
      intro spelled
      apply UnionType.formed_singleton
      rw [AtomicType.everywhere_named]
      exact ⟨⟨spelled, noTruth, noFalsity, by simp⟩, by simp⟩
  | argumentsOne inner ih =>
      intro u inside
      rw [List.mem_singleton] at inside
      exact inside ▸ ih whole
  | argumentsMore first others ihFirst ihOthers =>
      rw [List.forall_mem_append, List.forall_mem_cons] at whole
      exact List.forall_mem_cons.mpr ⟨ihFirst whole.1, ihOthers whole.2.2⟩
  | parametersNone =>
      intro u inside
      cases inside
  | parametersSome inner ih =>
      rw [List.forall_mem_append] at whole
      exact ih whole.1
  | withoutResult parameters ih =>
      have each := ih whole
      apply UnionType.formed_singleton
      rw [AtomicType.everywhere_callable]
      exact ⟨⟨fun u inside => (each u inside).1, by simp⟩, fun u inside => (each u inside).2,
        by simp⟩
  | withResult parameters result ihParameters ihResult =>
      rw [List.forall_mem_append, List.forall_mem_cons] at whole
      have each := ihParameters whole.1
      have back := ihResult whole.2.2
      apply UnionType.formed_singleton
      rw [AtomicType.everywhere_callable]
      exact ⟨⟨fun u inside => (each u inside).1, by simpa using back.1⟩,
        fun u inside => (each u inside).2, by simpa using back.2⟩
  | itemsNone =>
      intro item inside
      cases inside
  | itemsLast optional _ type ih =>
      rw [List.forall_mem_cons, List.forall_mem_append, List.forall_mem_append] at whole
      intro item inside
      rw [List.mem_singleton] at inside
      exact inside ▸ ih whole.2.2.1
  | itemsMore optional _ type others ihType ihOthers =>
      rw [List.forall_mem_cons, List.forall_mem_append, List.forall_mem_append,
        List.forall_mem_cons] at whole
      exact List.forall_mem_cons.mpr ⟨ihType whole.2.2.1, ihOthers whole.2.2.2.2⟩

theorem whole_of_scan (t : Text) {lexemes : List Lexeme} (scanned : Lexeme.scan t = .ok lexemes) :
    ∀ token ∈ lexemes, token.isToken = true → token.Whole := by
  induction lexemes generalizing t with
  | nil => simp
  | cons lexeme lexemes ih =>
      obtain ⟨after, found, rest⟩ := Lexeme.first?_of_scan scanned
      obtain ⟨-, -, again⟩ := Lexeme.first?_spec t found
      refine List.forall_mem_cons.mpr ⟨?_, ih after rest⟩
      intro token
      have alone := again token [] Lexeme.Separated.nil
      rwa [List.append_nil] at alone

/-- Every token of a text stands for itself. -/
theorem whole_of_tokens {t : Text} {tokens : List Lexeme} (lexed : Lexeme.tokens t = .ok tokens) :
    ∀ token ∈ tokens, token.Whole := by
  rw [Lexeme.tokens_eq_scan] at lexed
  cases scanned : Lexeme.scan t with
  | error stray => simp [scanned, Except.map] at lexed
  | ok lexemes =>
      simp only [scanned, Except.map, Except.ok.injEq] at lexed
      intro token inside
      rw [← lexed] at inside
      obtain ⟨member, token⟩ := List.mem_filter.mp inside
      exact whole_of_scan t scanned _ member token

/-- The type that a text spells is well formed. -/
theorem formed_of_parse {t : Text} {u : UnionType} (parsed : parse t = .ok u) : u.Formed := by
  cases lexed : Lexeme.tokens t with
  | error stray => simp [parse, lexed] at parsed
  | ok tokens =>
      rw [parse_of_tokens lexed] at parsed
      exact (derives_of_ofTokens (clean_of_tokens lexed) parsed).formed (whole_of_tokens lexed)

end TypeExpr
end PhpHooks
