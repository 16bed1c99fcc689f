import PhpHooks.Proofs.TypeExpr.Formed

set_option autoImplicit false

/-!
The result of a callable is written without parentheses, so only its first member is read back as
part of the callable. Hoisting is what becomes of a type that way: the other members of the result
move out of the callable and stand behind it.
-/
namespace PhpHooks

/-- A callable that keeps the first member of its result, with the other members behind it. -/
def AtomicType.spread (parameters : List (List AtomicType)) :
    Option (List AtomicType) → List AtomicType
  | some (first :: others) => .callable parameters (some [first]) :: others
  | result => [.callable parameters result]

mutual

/-- The members that an atomic type turns into. -/
def AtomicType.expand : AtomicType → List AtomicType
  | .named name arguments => [.named name (hoistUnions arguments)]
  | .literal value => [.literal value]
  | .shape name items => [.shape name (hoistItems items)]
  | .callable parameters result =>
      AtomicType.spread (hoistUnions parameters) (expandResult result)
termination_by structural atom => atom

def expandMembers : List AtomicType → List AtomicType
  | [] => []
  | a :: rest => a.expand ++ expandMembers rest
termination_by structural members => members

def hoistUnions : List (List AtomicType) → List (List AtomicType)
  | [] => []
  | u :: rest => UnionType.distinct (expandMembers u) :: hoistUnions rest
termination_by structural unions => unions

def hoistItems : List ShapeItem → List ShapeItem
  | [] => []
  | ⟨key, type, optional⟩ :: rest =>
      ⟨key, UnionType.distinct (expandMembers type), optional⟩ :: hoistItems rest
termination_by structural items => items

def expandResult : Option (List AtomicType) → Option (List AtomicType)
  | none => none
  | some u => some (expandMembers u)
termination_by structural result => result

end

/-- The union of what the members turn into, each once. -/
def UnionType.hoist (u : UnionType) : UnionType :=
  distinct (expandMembers u)

def ShapeItem.hoist (item : ShapeItem) : ShapeItem :=
  ⟨item.key, UnionType.hoist item.type, item.optional⟩

theorem expandMembers_eq (u : List AtomicType) : expandMembers u = u.flatMap AtomicType.expand := by
  induction u with
  | nil => rfl
  | cons a rest ih => rw [expandMembers, ih, List.flatMap_cons]

theorem hoistUnions_eq (us : List (List AtomicType)) : hoistUnions us = us.map UnionType.hoist := by
  induction us with
  | nil => rfl
  | cons u rest ih => rw [hoistUnions, ih, List.map_cons, UnionType.hoist]

theorem hoistItems_eq (items : List ShapeItem) : hoistItems items = items.map ShapeItem.hoist := by
  induction items with
  | nil => rfl
  | cons item rest ih =>
      obtain ⟨key, type, optional⟩ := item
      rw [hoistItems, ih, List.map_cons]
      rfl

theorem expandResult_eq (result : Option (List AtomicType)) :
    expandResult result = result.map fun u => u.flatMap AtomicType.expand := by
  cases result with
  | none => rfl
  | some u => rw [expandResult, expandMembers_eq, Option.map_some]

namespace AtomicType

theorem expand_named (name : Text) (arguments : List (List AtomicType)) :
    (named name arguments).expand = [.named name (arguments.map UnionType.hoist)] := by
  rw [expand, hoistUnions_eq]

theorem expand_shape (name : Text) (items : List ShapeItem) :
    (shape name items).expand = [.shape name (items.map ShapeItem.hoist)] := by
  rw [expand, hoistItems_eq]

theorem expand_callable (parameters : List (List AtomicType)) (result : Option (List AtomicType)) :
    (callable parameters result).expand =
      spread (parameters.map UnionType.hoist) (result.map fun u => u.flatMap expand) := by
  rw [expand, hoistUnions_eq, expandResult_eq]

def result? : AtomicType → Option UnionType
  | .callable _ result => result
  | _ => none

end AtomicType

theorem UnionType.hoist_eq (u : UnionType) : u.hoist = distinct (u.flatMap AtomicType.expand) := by
  rw [hoist, expandMembers_eq]

/-- A union whose members stay as they are stays as it is. -/
theorem UnionType.hoist_eq_self {P : AtomicType → Prop} {u : UnionType} (proper : u.Proper)
    (settled : u.Everywhere P) (fixed : ∀ a ∈ u, a.Everywhere P → a.expand = [a]) :
    u.hoist = u := by
  rw [everywhere_iff] at settled
  have same : u.map AtomicType.expand = u.map fun a => [a] :=
    List.map_congr_left fun a inside => fixed a inside (settled a inside)
  rw [hoist_eq, List.flatMap_def, same, ← List.flatMap_def, List.flatMap_singleton',
    distinct_eq_self proper.2]

theorem UnionType.everywhere_flatMap {P : AtomicType → Prop} {u : UnionType}
    (each : ∀ a ∈ u, UnionType.Everywhere P a.expand) :
    UnionType.Everywhere P (u.flatMap AtomicType.expand) := by
  rw [everywhere_iff]
  intro b inside
  obtain ⟨a, member, expanded⟩ := List.mem_flatMap.mp inside
  exact (everywhere_iff _).mp (each a member) b expanded

theorem UnionType.everywhere_hoist {P : AtomicType → Prop} {u : UnionType}
    (each : ∀ a ∈ u, UnionType.Everywhere P a.expand) : u.hoist.Everywhere P := by
  rw [hoist_eq]
  exact everywhere_distinct (everywhere_flatMap each)

namespace AtomicType

/-- Nothing moves where every result has one member. -/
theorem expand_eq_self (atom : AtomicType)
    (settled : atom.Everywhere fun a => a.Formed ∧ ∀ u ∈ a.result?, u.length = 1) :
    atom.expand = [atom] := by
  induction atom using AtomicType.induct with
  | named name arguments ih =>
      rw [everywhere_named] at settled
      obtain ⟨⟨⟨-, -, -, proper⟩, -⟩, inside⟩ := settled
      rw [expand_named, List.map_congr_left (g := id), List.map_id]
      intro u argument
      exact UnionType.hoist_eq_self (proper u argument) (inside u argument) (ih u argument)
  | literal value => rfl
  | shape name items ih =>
      rw [everywhere_shape] at settled
      obtain ⟨⟨⟨-, proper⟩, -⟩, inside⟩ := settled
      rw [expand_shape, List.map_congr_left (g := id), List.map_id]
      intro item entry
      rw [ShapeItem.hoist,
        UnionType.hoist_eq_self (proper item entry) (inside item entry) (ih item entry)]
      cases item
      rfl
  | callable parameters result ihParameters ihResult =>
      rw [everywhere_callable] at settled
      obtain ⟨⟨⟨proper, -⟩, single⟩, inside, insideResult⟩ := settled
      have fixed : parameters.map UnionType.hoist = parameters := by
        rw [List.map_congr_left (g := id), List.map_id]
        intro u parameter
        exact UnionType.hoist_eq_self (proper u parameter) (inside u parameter)
          (ihParameters u parameter)
      rw [expand_callable, fixed]
      cases result with
      | none => rfl
      | some u =>
          obtain ⟨a, rfl⟩ := List.length_eq_one_iff.mp (single u rfl)
          have settled := (UnionType.everywhere_iff [a]).mp (insideResult [a] rfl)
          have same := ihResult [a] rfl a List.mem_cons_self (settled a List.mem_cons_self)
          simp [same, spread]

/-- No result of two or more members. -/
def Narrow (atom : AtomicType) : Prop :=
  ∀ u ∈ atom.result?, u.length ≤ 1

theorem everywhere_spread {parameters : List (List AtomicType)}
    {result : Option (List AtomicType)}
    (before : ∀ u ∈ parameters, UnionType.Everywhere Narrow u)
    (behind : ∀ u ∈ result, UnionType.Everywhere Narrow u) :
    UnionType.Everywhere Narrow (spread parameters result) := by
  rw [UnionType.everywhere_iff]
  cases result with
  | none =>
      simp only [spread, List.forall_mem_singleton, everywhere_callable]
      exact ⟨by simp [Narrow, result?], before, behind⟩
  | some u =>
      cases u with
      | nil =>
          simp only [spread, List.forall_mem_singleton, everywhere_callable]
          exact ⟨by simp [Narrow, result?], before, behind⟩
      | cons first others =>
          have members := (UnionType.everywhere_iff _).mp (behind _ rfl)
          rw [List.forall_mem_cons] at members
          rw [spread, List.forall_mem_cons, everywhere_callable]
          refine ⟨⟨by simp [Narrow, result?], before, ?_⟩, members.2⟩
          simpa [UnionType.everywhere_iff] using members.1

/-- What an atomic type turns into has no result of two members, at any depth. -/
theorem everywhere_expand (atom : AtomicType) : UnionType.Everywhere Narrow atom.expand := by
  induction atom using AtomicType.induct with
  | named name arguments ih =>
      rw [expand_named, UnionType.everywhere_iff, List.forall_mem_singleton, everywhere_named,
        List.forall_mem_map]
      exact ⟨by simp [Narrow, result?],
        fun u argument => UnionType.everywhere_hoist (ih u argument)⟩
  | literal value =>
      rw [expand, UnionType.everywhere_iff, List.forall_mem_singleton, everywhere_literal]
      simp [Narrow, result?]
  | shape name items ih =>
      rw [expand_shape, UnionType.everywhere_iff, List.forall_mem_singleton, everywhere_shape,
        List.forall_mem_map]
      exact ⟨by simp [Narrow, result?],
        fun item entry => UnionType.everywhere_hoist (ih item entry)⟩
  | callable parameters result ihParameters ihResult =>
      rw [expand_callable]
      apply everywhere_spread
      · rw [List.forall_mem_map]
        exact fun u parameter => UnionType.everywhere_hoist (ihParameters u parameter)
      · cases result with
        | none => simp
        | some u => simpa using UnionType.everywhere_flatMap (ihResult u rfl)

end AtomicType

/-- A type in which every result has one member is not changed by hoisting. -/
theorem UnionType.hoist_of_single {u : UnionType} (formed : u.Formed)
    (single : u.Everywhere fun a => ∀ r ∈ a.result?, r.length = 1) : u.hoist = u :=
  hoist_eq_self formed.1 (fun a inside => ⟨formed.2 a inside, single a inside⟩)
    fun a _ => AtomicType.expand_eq_self a

/-- A type in which some result has two members is changed by hoisting. -/
theorem UnionType.hoist_of_wide {u : UnionType} {a : AtomicType} {r : UnionType}
    (inside : a ∈ u.atoms) (result : r ∈ a.result?) (wide : 2 ≤ r.length) : u.hoist ≠ u := by
  intro same
  have narrow : u.hoist.Everywhere AtomicType.Narrow :=
    everywhere_hoist fun b _ => AtomicType.everywhere_expand b
  rw [same] at narrow
  have short := narrow a inside r result
  omega

end PhpHooks
