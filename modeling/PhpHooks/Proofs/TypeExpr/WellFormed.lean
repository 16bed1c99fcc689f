import PhpHooks.Proofs.TypeExpr.Formed
import PhpHooks.TypeExpr.Reading

set_option autoImplicit false

/-!
Well-formed types: the type and every union inside it have members and no two the same. Types that
texts spell are well formed, and widening keeps them so, although it may make members the same.
-/
namespace PhpHooks

/-- The unions directly inside an atomic type. -/
def AtomicType.unions : AtomicType → List UnionType
  | .named _ arguments => arguments
  | .literal _ => []
  | .shape _ items => items.map ShapeItem.type
  | .callable parameters result => parameters ++ result.toList

/-- The union and all unions inside it, at every depth, have members and no two the same. -/
def UnionType.WellFormed (u : UnionType) : Prop :=
  u.Proper ∧ ∀ a ∈ u.atoms, ∀ v ∈ a.unions, v.Proper

/-- No member is a literal. Inside the members there may be some. -/
def UnionType.General (u : UnionType) : Prop :=
  ∀ a ∈ u, ∀ value, a ≠ .literal value

theorem AtomicType.Formed.unions_proper {atom : AtomicType} (formed : atom.Formed) :
    ∀ v ∈ atom.unions, v.Proper := by
  cases atom with
  | named name arguments => exact formed.2.2.2
  | literal value =>
      intro v inside
      cases inside
  | shape name items =>
      intro v inside
      obtain ⟨item, member, rfl⟩ := List.mem_map.mp inside
      exact formed.2 item member
  | callable parameters result =>
      intro v inside
      rcases List.mem_append.mp inside with parameter | back
      · exact formed.1 v parameter
      · exact formed.2 v (Option.mem_toList.mp back)

namespace UnionType

theorem Formed.wellFormed {u : UnionType} (formed : u.Formed) : u.WellFormed :=
  ⟨formed.1, fun a inside => (formed.2 a inside).unions_proper⟩

/-- A well-formed union says of every member that all unions inside it are proper. -/
theorem wellFormed_iff (u : UnionType) :
    u.WellFormed ↔
      u.Proper ∧ ∀ a ∈ u, a.Everywhere fun b => ∀ v ∈ b.unions, v.Proper := by
  have members := everywhere_iff (P := fun b => ∀ v ∈ b.unions, v.Proper) u
  exact and_congr_right fun _ => members

/-- A name without arguments has no unions inside it. -/
theorem everywhere_unions_name (name : Text) :
    (AtomicType.named name []).Everywhere fun b => ∀ v ∈ b.unions, v.Proper := by
  rw [AtomicType.everywhere_named]
  simp [AtomicType.unions]

theorem wellFormed_name (name : Text) : WellFormed [.named name []] := by
  rw [wellFormed_iff]
  refine ⟨proper_singleton _, ?_⟩
  rw [List.forall_mem_singleton]
  exact everywhere_unions_name name

theorem wellFormed_literal (value : Literal) : WellFormed [.literal value] := by
  rw [wellFormed_iff]
  refine ⟨proper_singleton _, ?_⟩
  rw [List.forall_mem_singleton, AtomicType.everywhere_literal]
  simp [AtomicType.unions]

/-- A member that is widened is no literal, and all unions inside it are proper if they were. -/
theorem widen_spec (a : AtomicType)
    (proper : a.Everywhere fun b => ∀ v ∈ b.unions, v.Proper) :
    (∀ value, a.widen ≠ .literal value) ∧
      a.widen.Everywhere fun b => ∀ v ∈ b.unions, v.Proper := by
  cases a with
  | literal value => exact ⟨by simp [AtomicType.widen], everywhere_unions_name value.base⟩
  | named name arguments => exact ⟨by simp [AtomicType.widen], proper⟩
  | shape name items => exact ⟨by simp [AtomicType.widen], proper⟩
  | callable parameters result => exact ⟨by simp [AtomicType.widen], proper⟩

/-- Widening removes the members that it has made the same. -/
theorem WellFormed.widen {u : UnionType} (wellFormed : u.WellFormed) :
    u.widen.WellFormed ∧ u.widen.General := by
  rw [wellFormed_iff] at wellFormed
  obtain ⟨proper, inside⟩ := wellFormed
  have filled : u.map AtomicType.widen ≠ [] := by
    simpa using proper.1
  have member : ∀ b ∈ u.widen, ∃ a ∈ u, a.widen = b := by
    intro b kept
    exact List.mem_map.mp (mem_of_mem_distinct kept)
  refine ⟨?_, ?_⟩
  · rw [wellFormed_iff]
    refine ⟨proper_distinct filled, ?_⟩
    intro b kept
    obtain ⟨a, present, rfl⟩ := member b kept
    exact (widen_spec a (inside a present)).2
  · intro b kept
    obtain ⟨a, present, rfl⟩ := member b kept
    exact (widen_spec a (inside a present)).1

theorem general_mixed : mixed.General := by
  simp [General, mixed, named]

end UnionType

namespace TypeExpr

theorem wellFormed_of_parse {t : Text} {u : UnionType} (parsed : parse t = .ok u) :
    u.WellFormed :=
  (formed_of_parse parsed).wellFormed

end TypeExpr

/-- A text that can be used as a type spells one, which is then widened. -/
theorem TypeReading.ofText_eq_usable {t : Option Text} {u : UnionType}
    (usable : ofText t = .usable u) : ∃ s v, TypeExpr.parse s = .ok v ∧ u = v.widen := by
  cases t with
  | none => cases usable
  | some s =>
      rw [ofText, TypeExpr.parse?_boundless] at usable
      split at usable
      · cases usable
      · cases parsed : TypeExpr.parse s with
        | ok v =>
            rw [parsed, TypeReading.usable.injEq] at usable
            exact ⟨s, v, parsed, usable.symm⟩
        | error fault =>
            rw [parsed] at usable
            cases fault <;> cases usable

end PhpHooks
