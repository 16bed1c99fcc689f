import PhpHooks.TypeExpr.Printer

set_option autoImplicit false

/-!
Types as trees: induction over the atomic types inside one another, the atomic types at every
depth, and the removal of repeated members.
-/
namespace PhpHooks

/-- Induction over an atomic type, with the hypothesis for every member of a union inside it. -/
theorem AtomicType.induct {motive : AtomicType → Prop}
    (named : ∀ name arguments, (∀ u ∈ arguments, ∀ a ∈ u, motive a) →
      motive (.named name arguments))
    (literal : ∀ value, motive (.literal value))
    (shape : ∀ name items, (∀ item ∈ items, ∀ a ∈ ShapeItem.type item, motive a) →
      motive (.shape name items))
    (callable : ∀ parameters result, (∀ u ∈ parameters, ∀ a ∈ u, motive a) →
      (∀ u ∈ result, ∀ a ∈ u, motive a) → motive (.callable parameters result))
    (atom : AtomicType) : motive atom := by
  refine @AtomicType.rec motive (fun item => ∀ a ∈ item.type, motive a)
    (fun us => ∀ u ∈ us, ∀ a ∈ u, motive a) (fun items => ∀ item ∈ items, ∀ a ∈ item.type, motive a)
    (fun result => ∀ u ∈ result, ∀ a ∈ u, motive a) (fun u => ∀ a ∈ u, motive a)
    named literal shape callable ?_ ?_ ?_ ?_ ?_ ?_ ?_ ?_ ?_ atom
  · exact fun key type optional inner => inner
  · simp
  · exact fun u us first others => List.forall_mem_cons.mpr ⟨first, others⟩
  · simp
  · exact fun item items first others => List.forall_mem_cons.mpr ⟨first, others⟩
  · simp
  · intro u inner v same
    rw [Option.mem_some_iff] at same
    exact same ▸ inner
  · simp
  · exact fun a u first others => List.forall_mem_cons.mpr ⟨first, others⟩

mutual

/-- An atomic type and all atomic types inside it. -/
def AtomicType.atoms : AtomicType → List AtomicType
  | .named name arguments => .named name arguments :: unionsAtoms arguments
  | .literal value => [.literal value]
  | .shape name items => .shape name items :: itemsAtoms items
  | .callable parameters result =>
      .callable parameters result :: unionsAtoms parameters ++ resultAtoms result
termination_by structural atom => atom

def membersAtoms : List AtomicType → List AtomicType
  | [] => []
  | a :: rest => a.atoms ++ membersAtoms rest
termination_by structural members => members

def unionsAtoms : List (List AtomicType) → List AtomicType
  | [] => []
  | u :: rest => membersAtoms u ++ unionsAtoms rest
termination_by structural unions => unions

def itemsAtoms : List ShapeItem → List AtomicType
  | [] => []
  | ⟨_, type, _⟩ :: rest => membersAtoms type ++ itemsAtoms rest
termination_by structural items => items

def resultAtoms : Option (List AtomicType) → List AtomicType
  | none => []
  | some u => membersAtoms u
termination_by structural result => result

end

def UnionType.atoms (u : UnionType) : List AtomicType :=
  membersAtoms u

/-- A property of an atomic type and of all atomic types inside it. -/
def AtomicType.Everywhere (P : AtomicType → Prop) (atom : AtomicType) : Prop :=
  ∀ a ∈ atom.atoms, P a

/-- A property of all atomic types of a union, at every depth. -/
def UnionType.Everywhere (P : AtomicType → Prop) (u : UnionType) : Prop :=
  ∀ a ∈ u.atoms, P a

section Everywhere

variable {P : AtomicType → Prop}

theorem forall_membersAtoms (u : List AtomicType) :
    (∀ a ∈ membersAtoms u, P a) ↔ ∀ m ∈ u, AtomicType.Everywhere P m := by
  induction u with
  | nil => simp [membersAtoms]
  | cons m rest ih =>
      rw [membersAtoms, List.forall_mem_append, ih, List.forall_mem_cons]
      rfl

theorem forall_unionsAtoms (us : List (List AtomicType)) :
    (∀ a ∈ unionsAtoms us, P a) ↔ ∀ u ∈ us, UnionType.Everywhere P u := by
  induction us with
  | nil => simp [unionsAtoms]
  | cons u rest ih =>
      rw [unionsAtoms, List.forall_mem_append, ih, List.forall_mem_cons]
      rfl

theorem forall_itemsAtoms (items : List ShapeItem) :
    (∀ a ∈ itemsAtoms items, P a) ↔ ∀ item ∈ items, UnionType.Everywhere P item.type := by
  induction items with
  | nil => simp [itemsAtoms]
  | cons item rest ih =>
      obtain ⟨key, type, optional⟩ := item
      rw [itemsAtoms, List.forall_mem_append, ih, List.forall_mem_cons]
      rfl

theorem forall_resultAtoms (result : Option (List AtomicType)) :
    (∀ a ∈ resultAtoms result, P a) ↔ ∀ u ∈ result, UnionType.Everywhere P u := by
  cases result with
  | none => simp [resultAtoms]
  | some u =>
      simp only [resultAtoms, Option.mem_some_iff, forall_eq']
      rfl

theorem UnionType.everywhere_iff (u : UnionType) :
    u.Everywhere P ↔ ∀ a ∈ u, AtomicType.Everywhere P a :=
  forall_membersAtoms u

theorem AtomicType.everywhere_named (name : Text) (arguments : List (List AtomicType)) :
    (AtomicType.named name arguments).Everywhere P ↔
      P (.named name arguments) ∧ ∀ u ∈ arguments, UnionType.Everywhere P u := by
  rw [Everywhere, atoms, List.forall_mem_cons, forall_unionsAtoms]

theorem AtomicType.everywhere_literal (value : Literal) :
    (AtomicType.literal value).Everywhere P ↔ P (.literal value) := by
  rw [Everywhere, atoms, List.forall_mem_singleton]

theorem AtomicType.everywhere_shape (name : Text) (items : List ShapeItem) :
    (AtomicType.shape name items).Everywhere P ↔
      P (.shape name items) ∧ ∀ item ∈ items, UnionType.Everywhere P item.type := by
  rw [Everywhere, atoms, List.forall_mem_cons, forall_itemsAtoms]

theorem AtomicType.everywhere_callable (parameters : List (List AtomicType))
    (result : Option (List AtomicType)) :
    (AtomicType.callable parameters result).Everywhere P ↔
      P (.callable parameters result) ∧ (∀ u ∈ parameters, UnionType.Everywhere P u) ∧
        ∀ u ∈ result, UnionType.Everywhere P u := by
  rw [Everywhere, atoms, List.cons_append, List.forall_mem_cons, List.forall_mem_append,
    forall_unionsAtoms, forall_resultAtoms]

end Everywhere

namespace UnionType

def Distinct (u : UnionType) : Prop :=
  u.Pairwise fun a b => a.same b = false

theorem mem_of_mem_distinct {u : List AtomicType} {a : AtomicType} (inside : a ∈ distinct u) :
    a ∈ u := by
  induction u with
  | nil => exact inside
  | cons b rest ih =>
      rw [distinct, List.mem_cons] at inside
      rcases inside with rfl | later
      · exact List.mem_cons_self
      · exact List.mem_cons_of_mem b (ih (List.mem_filter.mp later).1)

theorem distinct_ne_nil {u : List AtomicType} (filled : u ≠ []) : distinct u ≠ [] := by
  cases u with
  | nil => exact absurd rfl filled
  | cons a rest => simp [distinct]

theorem distinct_distinct (u : List AtomicType) : (distinct u).Distinct := by
  induction u with
  | nil => exact List.Pairwise.nil
  | cons a rest ih =>
      rw [distinct, Distinct, List.pairwise_cons]
      refine ⟨?_, ih.filter _⟩
      intro b kept
      simpa using (List.mem_filter.mp kept).2

theorem distinct_eq_self {u : UnionType} (apart : u.Distinct) : distinct u = u := by
  induction u with
  | nil => rfl
  | cons a rest ih =>
      rw [Distinct, List.pairwise_cons] at apart
      rw [distinct, ih apart.2, List.filter_eq_self.mpr]
      intro b inside
      simp [apart.1 b inside]

theorem everywhere_distinct {P : AtomicType → Prop} {u : List AtomicType}
    (holds : UnionType.Everywhere P u) : UnionType.Everywhere P (distinct u) := by
  rw [everywhere_iff] at holds ⊢
  exact fun a inside => holds a (mem_of_mem_distinct inside)

end UnionType

end PhpHooks
