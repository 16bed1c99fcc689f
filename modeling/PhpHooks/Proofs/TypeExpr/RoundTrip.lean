import PhpHooks.Proofs.TypeExpr.Spelling

set_option autoImplicit false

/-!
A type that has been read is printed and read again. It comes back hoisted, which is to say
unchanged if no callable inside it has a result of two or more members.
-/
namespace PhpHooks

namespace AtomicType

def items : AtomicType → List ShapeItem
  | .shape _ items => items
  | _ => []

/-- Apart from its members, the type can be read back from its text. -/
structure Printable (atom : AtomicType) : Prop where
  formed : atom.Formed
  noFloat : ∀ x, atom ≠ .literal (.float x)
  plainKeys : ∀ item ∈ atom.items, Lexeme.PlainKey item.key

end AtomicType

namespace TypeExpr

open AtomicType (Printable)

/-- A union is read back hoisted if its members are read back expanded. -/
theorem spells_hoist {u : UnionType} (proper : u.Proper) (printable : u.Everywhere Printable)
    (each : ∀ a ∈ u, a.Everywhere Printable → SpellsMembers a.text a.expand) :
    Spells .union u.text u.hoist := by
  rw [UnionType.everywhere_iff] at printable
  rw [UnionType.text_eq, UnionType.hoist_eq]
  apply SpellsMembers.union
  exact spellsMembers_joined proper.1 fun a member => each a member (printable a member)

/-- The literals without floats are read back from their texts. -/
theorem spells_literal {value : Literal} (printable : Printable (.literal value)) :
    Spells (.primary true) value.text [.literal value] := by
  cases value with
  | string value => exact spells_string value
  | int n => exact spells_int printable.formed
  | float x => exact absurd rfl (printable.noFloat x)
  | bool value =>
      cases value with
      | false => exact ⟨_, lexes_name rfl, .name (.falsity (by decide))⟩
      | true => exact ⟨_, lexes_name rfl, .name (.truth (by decide))⟩

/-- The text of an atomic type spells the members that it expands to. -/
theorem spellsMembers_expand (atom : AtomicType) (printable : atom.Everywhere Printable) :
    SpellsMembers atom.text atom.expand := by
  induction atom using AtomicType.induct with
  | named name us ih =>
      rw [AtomicType.everywhere_named] at printable
      obtain ⟨whole, noTruth, noFalsity, proper⟩ := printable.1.formed
      rw [AtomicType.expand_named]
      apply Spells.members
      apply spells_named whole noTruth noFalsity
      exact fun u inside => spells_hoist (proper u inside) (printable.2 u inside) (ih u inside)
  | literal value =>
      exact Spells.members (spells_literal ((AtomicType.everywhere_literal value).mp printable))
  | shape name items ih =>
      rw [AtomicType.everywhere_shape] at printable
      obtain ⟨shapeName, proper⟩ := printable.1.formed
      rw [AtomicType.expand_shape]
      apply Spells.members
      apply spells_shape shapeName printable.1.plainKeys
      exact fun item entry =>
        spells_hoist (proper item entry) (printable.2 item entry) (ih item entry)
  | callable us result ihParameters ihResult =>
      rw [AtomicType.everywhere_callable] at printable
      obtain ⟨⟨⟨proper, properResult⟩, -, -⟩, inside, insideResult⟩ := printable
      have each : ∀ u ∈ us, Spells .union (UnionType.text u) (UnionType.hoist u) := by
        intro u parameter
        exact spells_hoist (proper u parameter) (inside u parameter) (ihParameters u parameter)
      rw [AtomicType.expand_callable]
      cases result with
      | none => exact Spells.members (spells_callable each)
      | some r =>
          have members := (UnionType.everywhere_iff r).mp (insideResult r rfl)
          obtain ⟨behind, behindLexes, spelled⟩ := spellsMembers_joined (properResult r rfl).1
            fun a member => ihResult r rfl a member (members a member)
          obtain ⟨tokens, derived, lexes⟩ := lexes_callable each
          refine ⟨_, ?_, Members.callable derived spelled⟩
          rw [AtomicType.text_callable, resultText, memberTexts_eq]
          have whole := lexes.spaced (c := ':') (by decide) behindLexes
          rw [List.append_assoc, List.singleton_append] at whole
          exact whole

theorem spells_text {u : UnionType} (formed : u.Formed) (printable : u.Everywhere Printable) :
    Spells .union u.text u.hoist :=
  spells_hoist formed.1 printable fun a _ => spellsMembers_expand a

theorem parse_of_spells {t : Text} {u : UnionType} (spelled : Spells .union t u) :
    parse t = .ok u := by
  obtain ⟨tokens, lexes, derived⟩ := spelled
  rw [parse_of_tokens lexes.tokens_eq, ofTokens_of_derives derived]

/-- A type that has been read, without floats and with plain keys, is read back hoisted from its
text. So it comes back unchanged if all results in it have one member, and changed if one has
more. -/
theorem parse_text_eq_hoist (t : Text) (u : UnionType) (parsed : parse t = .ok u)
    (noFloat : ∀ a ∈ u.atoms, ∀ x, a ≠ .literal (.float x))
    (plainKeys : ∀ a ∈ u.atoms, ∀ item ∈ a.items, Lexeme.PlainKey item.key) :
    parse u.text = .ok u.hoist ∧
    ((∀ a ∈ u.atoms, ∀ r ∈ a.result?, r.length = 1) → parse u.text = .ok u) ∧
    ((∃ a ∈ u.atoms, ∃ r ∈ a.result?, 2 ≤ r.length) → parse u.text ≠ .ok u) := by
  have formed := formed_of_parse parsed
  have printable : u.Everywhere Printable := fun a inside =>
    ⟨formed.2 a inside, noFloat a inside, plainKeys a inside⟩
  have again := parse_of_spells (spells_text formed printable)
  refine ⟨again, ?_, ?_⟩
  · intro single
    rw [again, UnionType.hoist_of_single formed single]
  · rintro ⟨a, inside, r, result, wide⟩ same
    rw [again, Except.ok.injEq] at same
    exact UnionType.hoist_of_wide inside result wide same

/-- An array shape, or a callable that gives a number or nothing. -/
def shapeOrCallable : UnionType :=
  [.shape "array".toList [⟨"size".toList, [.literal (.string "it's".toList)], true⟩],
    .callable [] (some [.named "int".toList [], .named "null".toList []])]

theorem parse_shapeOrCallable :
    parse "array\x7bsize?: \"it's\"\x7d|callable(): ?int".toList = .ok shapeOrCallable := by
  have lexed : Lexeme.tokens "array\x7bsize?: \"it's\"\x7d|callable(): ?int".toList = .ok
      [⟨.name, "array".toList⟩, .ofMark '\x7b', ⟨.name, "size".toList⟩, .ofMark '?', .ofMark ':',
        ⟨.string, "\"it's\"".toList⟩, .ofMark '\x7d', .ofMark '|', ⟨.name, "callable".toList⟩,
        .ofMark '(', .ofMark ')', .ofMark ':', .ofMark '?', ⟨.name, "int".toList⟩] := by
    decide
  have text : Derives true .union [⟨.string, "\"it's\"".toList⟩]
      [.literal (.string "it's".toList)] :=
    ((Derives.string "\"it's\"".toList).member 0 (by decide)).union .alternativesNone
  have items : Derives true .items [⟨.name, "size".toList⟩, .ofMark '?', .ofMark ':',
      ⟨.string, "\"it's\"".toList⟩, .ofMark '\x7d']
      [⟨"size".toList, [.literal (.string "it's".toList)], true⟩] := .itemsLast true rfl text
  have shape : Derives true (.named "array".toList true) _ _ := .shape (by decide) items
  have result : Derives true .member [.ofMark '?', ⟨.name, "int".toList⟩]
      [.named "int".toList [], .named "null".toList []] :=
    (derives_int true).nullable.member 0 (by decide)
  have callable : Derives true (.named "callable".toList false) _ _ :=
    .callableName (by decide) (.withResult .parametersNone result)
  have second := ((Derives.name callable).member 0 (by decide)).alternativesMore .alternativesNone
  rw [parse_of_tokens lexed]
  exact ofTokens_of_derives (((Derives.name shape).member 0 (by decide)).union second)

theorem atoms_shapeOrCallable : shapeOrCallable.atoms =
    [.shape "array".toList [⟨"size".toList, [.literal (.string "it's".toList)], true⟩],
      .literal (.string "it's".toList),
      .callable [] (some [.named "int".toList [], .named "null".toList []]),
      .named "int".toList [], .named "null".toList []] := rfl

/-- Printed and read again, the callable gives `int` only, and `null` has become a member beside
it. -/
theorem parse_text_shapeOrCallable :
    parse "array\x7bsize?: 'it\\'s'\x7d|callable(): int|null".toList =
      .ok [.shape "array".toList [⟨"size".toList, [.literal (.string "it's".toList)], true⟩],
        .callable [] (some [.named "int".toList []]), .named "null".toList []] ∧
    parse shapeOrCallable.text ≠ .ok shapeOrCallable := by
  have noFloat : ∀ a ∈ shapeOrCallable.atoms, ∀ x, a ≠ .literal (.float x) := by
    simp [atoms_shapeOrCallable]
  have plain : Lexeme.PlainKey "size".toList := ⟨.name, Or.inl rfl, by decide⟩
  have plainKeys : ∀ a ∈ shapeOrCallable.atoms, ∀ item ∈ a.items, Lexeme.PlainKey item.key := by
    simpa [atoms_shapeOrCallable, AtomicType.items] using plain
  have again := parse_text_eq_hoist _ _ parse_shapeOrCallable noFloat plainKeys
  have wide : ∃ a ∈ shapeOrCallable.atoms, ∃ r ∈ a.result?, 2 ≤ r.length := by
    simp [atoms_shapeOrCallable, AtomicType.result?]
  exact ⟨again.1, again.2.2 wide⟩

end TypeExpr
end PhpHooks
