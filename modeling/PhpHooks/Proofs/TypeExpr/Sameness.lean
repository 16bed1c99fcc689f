import Mathlib.Data.List.Forall2
import PhpHooks.Proofs.TypeExpr.Structure

set_option autoImplicit false

/-!
Sameness of types is transitive, so removing repeated members can be done piece by piece: it makes
no difference whether the pieces of a list have been freed of repetitions before.
-/
namespace PhpHooks

open List (Forall₂)

section Transitivity

theorem Double.same_trans {x y z : Double} (first : x.same y = true) (second : y.same z = true) :
    x.same z = true := by
  cases x <;> cases y <;> cases z <;>
    simp only [Double.same, Bool.and_eq_true, Bool.or_eq_true, beq_iff_eq, Bool.false_eq_true]
      at first second ⊢
  · obtain ⟨⟨rfl, rfl⟩, firstSign⟩ := first
    obtain ⟨⟨rfl, rfl⟩, secondSign⟩ := second
    refine ⟨⟨rfl, rfl⟩, ?_⟩
    rcases firstSign with rfl | zero
    · exact secondSign
    · exact Or.inr zero
  · exact first.trans second

theorem Literal.same_trans {x y z : Literal} (first : x.same y = true) (second : y.same z = true) :
    x.same z = true := by
  cases x <;> cases y <;> cases z <;>
    simp only [Literal.same, beq_iff_eq, Bool.false_eq_true] at first second ⊢
  · exact first.trans second
  · exact first.trans second
  · exact Double.same_trans first second
  · exact first.trans second

theorem UnionType.same_iff (u v : List AtomicType) :
    UnionType.same u v = true ↔ Forall₂ (fun a b => a.same b = true) u v := by
  induction u generalizing v with
  | nil => cases v <;> simp [UnionType.same]
  | cons a u ih => cases v <;> simp [UnionType.same, ih]

theorem sameUnions_iff (us vs : List (List AtomicType)) :
    sameUnions us vs = true ↔ Forall₂ (fun u v => UnionType.same u v = true) us vs := by
  induction us generalizing vs with
  | nil => cases vs <;> simp [sameUnions]
  | cons u us ih => cases vs <;> simp [sameUnions, ih]

theorem sameItems_iff (items others : List ShapeItem) :
    sameItems items others = true ↔
      Forall₂ (fun item other => item.key = other.key ∧
        UnionType.same item.type other.type = true ∧ item.optional = other.optional)
        items others := by
  induction items generalizing others with
  | nil => cases others <;> simp [sameItems]
  | cons item items ih =>
      obtain ⟨key, type, optional⟩ := item
      cases others with
      | nil => simp [sameItems]
      | cons other others =>
          obtain ⟨key', type', optional'⟩ := other
          simp [sameItems, ih, and_assoc]

theorem forall₂_trans {α : Type} {R : α → α → Prop} {u v w : List α}
    (each : ∀ a ∈ u, ∀ b c, R a b → R b c → R a c) (first : Forall₂ R u v)
    (second : Forall₂ R v w) : Forall₂ R u w := by
  induction first generalizing w with
  | nil => exact second
  | cons here _ ih =>
      rw [List.forall_mem_cons] at each
      cases second with
      | cons there rest => exact .cons (each.1 _ _ here there) (ih each.2 rest)

/-- What is the same as something that is the same as the type is the same as the type. -/
def AtomicType.CarriesOn (a : AtomicType) : Prop :=
  ∀ b c : AtomicType, a.same b = true → b.same c = true → a.same c = true

variable {u v w : List AtomicType} {us vs ws : List (List AtomicType)}

theorem UnionType.same_trans_of (each : ∀ a ∈ u, a.CarriesOn) (first : UnionType.same u v = true)
    (second : UnionType.same v w = true) : UnionType.same u w = true := by
  rw [UnionType.same_iff] at first second ⊢
  exact forall₂_trans each first second

theorem sameUnions_trans_of (each : ∀ u ∈ us, ∀ a ∈ u, a.CarriesOn)
    (first : sameUnions us vs = true) (second : sameUnions vs ws = true) :
    sameUnions us ws = true := by
  rw [sameUnions_iff] at first second ⊢
  exact forall₂_trans (fun u inside _ _ => UnionType.same_trans_of (each u inside)) first second

theorem sameItems_trans_of {items others more : List ShapeItem}
    (each : ∀ item ∈ items, ∀ a ∈ item.type, a.CarriesOn) (first : sameItems items others = true)
    (second : sameItems others more = true) : sameItems items more = true := by
  rw [sameItems_iff] at first second ⊢
  refine forall₂_trans ?_ first second
  rintro item inside other last ⟨key, type, optional⟩ ⟨key', type', optional'⟩
  exact ⟨key.trans key', UnionType.same_trans_of (each item inside) type type',
    optional.trans optional'⟩

theorem sameResult_trans_of {result other last : Option (List AtomicType)}
    (each : ∀ u ∈ result, ∀ a ∈ u, a.CarriesOn) (first : sameResult result other = true)
    (second : sameResult other last = true) : sameResult result last = true := by
  cases result <;> cases other <;> cases last <;>
    simp only [sameResult, Bool.false_eq_true] at first second ⊢
  exact UnionType.same_trans_of (each _ rfl) first second

theorem AtomicType.carriesOn (a : AtomicType) : a.CarriesOn := by
  induction a using AtomicType.induct with
  | named name arguments ih =>
      intro b c first second
      cases b <;> cases c <;>
        simp only [AtomicType.same, Bool.and_eq_true, beq_iff_eq, Bool.false_eq_true]
          at first second ⊢
      exact ⟨first.1.trans second.1, sameUnions_trans_of ih first.2 second.2⟩
  | literal value =>
      intro b c first second
      cases b <;> cases c <;> simp only [AtomicType.same, Bool.false_eq_true] at first second ⊢
      exact Literal.same_trans first second
  | shape name items ih =>
      intro b c first second
      cases b <;> cases c <;>
        simp only [AtomicType.same, Bool.and_eq_true, beq_iff_eq, Bool.false_eq_true]
          at first second ⊢
      exact ⟨first.1.trans second.1, sameItems_trans_of ih first.2 second.2⟩
  | callable parameters result ihParameters ihResult =>
      intro b c first second
      cases b <;> cases c <;>
        simp only [AtomicType.same, Bool.and_eq_true, Bool.false_eq_true] at first second ⊢
      exact ⟨sameUnions_trans_of ihParameters first.1 second.1,
        sameResult_trans_of ihResult first.2 second.2⟩

end Transitivity

namespace UnionType

/-- A test that fails for whatever is the same as something it fails for can be made before or
after repetitions are removed. -/
theorem filter_distinct {p : AtomicType → Bool}
    (spreads : ∀ a b : AtomicType, p a = false → a.same b = true → p b = false)
    (u : List AtomicType) : (distinct u).filter p = distinct (u.filter p) := by
  induction u with
  | nil => rfl
  | cons a u ih =>
      rw [distinct]
      cases kept : p a with
      | true =>
          rw [List.filter_cons_of_pos kept, List.filter_cons_of_pos kept, distinct, ← ih,
            List.filter_comm]
      | false =>
          -- What `a` would remove fails the test anyway.
          have same : ∀ b ∈ distinct u, (p b && !a.same b) = p b := by
            intro b _
            cases equal : a.same b with
            | false => simp
            | true => simp [spreads a b kept equal]
          rw [List.filter_cons_of_neg (by simp [kept]), List.filter_cons_of_neg (by simp [kept]),
            List.filter_filter, List.filter_congr same, ih]

theorem filter_same_distinct (a : AtomicType) (u : List AtomicType) :
    (distinct u).filter (fun b => !a.same b) = distinct (u.filter fun b => !a.same b) := by
  apply filter_distinct
  intro b c gone same
  have first : a.same b = true := by simpa using gone
  simp [a.carriesOn b c first same]

/-- Removing repetitions from the front first makes no difference. -/
theorem distinct_distinct_append (u v : List AtomicType) :
    distinct (distinct u ++ v) = distinct (u ++ v) := by
  induction u with
  | nil => rfl
  | cons a u ih =>
      have once : ((distinct u).filter (fun b => !a.same b) ++ v).filter (fun b => !a.same b) =
          (distinct u ++ v).filter fun b => !a.same b := by
        simp [List.filter_append, List.filter_filter]
      calc distinct (distinct (a :: u) ++ v)
          = a :: (distinct ((distinct u).filter (fun b => !a.same b) ++ v)).filter
              fun b => !a.same b := rfl
        _ = a :: (distinct (distinct u ++ v)).filter fun b => !a.same b := by
            rw [filter_same_distinct, once, filter_same_distinct]
        _ = distinct (a :: u ++ v) := by rw [ih, List.cons_append, distinct]

/-- Removing repetitions from the back first makes no difference. -/
theorem distinct_append_distinct (u v : List AtomicType) :
    distinct (u ++ distinct v) = distinct (u ++ v) := by
  induction u with
  | nil => exact distinct_eq_self (distinct_distinct v)
  | cons a u ih => rw [List.cons_append, distinct, ih, List.cons_append, distinct]

theorem distinct_flatten_map_distinct (us : List (List AtomicType)) :
    distinct (us.map distinct).flatten = distinct us.flatten := by
  induction us with
  | nil => rfl
  | cons u us ih =>
      rw [List.map_cons, List.flatten_cons, List.flatten_cons, distinct_distinct_append,
        ← distinct_append_distinct, ih, distinct_append_distinct]

/-- A map that keeps sameness can be applied before or after repetitions are removed. -/
theorem distinct_map_distinct {f : AtomicType → AtomicType}
    (keeps : ∀ a b : AtomicType, a.same b = true → (f a).same (f b) = true)
    (u : List AtomicType) : distinct ((distinct u).map f) = distinct (u.map f) := by
  induction u with
  | nil => rfl
  | cons a u ih =>
      -- What is not the same after the map was not the same before it.
      have apart : ∀ b ∈ distinct u, (!(f a).same (f b) && !a.same b) = !(f a).same (f b) := by
        intro b _
        cases equal : a.same b with
        | false => simp
        | true => simp [keeps a b equal]
      have once : (((distinct u).filter fun b => !a.same b).map f).filter (fun b => !(f a).same b) =
          ((distinct u).map f).filter fun b => !(f a).same b := by
        rw [List.filter_map, List.filter_map, List.filter_filter]
        exact congrArg (List.map f) (List.filter_congr apart)
      calc distinct ((distinct (a :: u)).map f)
          = f a :: (distinct (((distinct u).filter fun b => !a.same b).map f)).filter
              fun b => !(f a).same b := rfl
        _ = f a :: (distinct ((distinct u).map f)).filter fun b => !(f a).same b := by
            rw [filter_same_distinct, once, filter_same_distinct]
        _ = distinct ((a :: u).map f) := by rw [ih, List.map_cons, distinct]

theorem same_widen {a b : AtomicType} (same : a.same b = true) : a.widen.same b.widen = true := by
  cases a <;> cases b <;> simp only [AtomicType.same, Bool.false_eq_true] at same
  · exact same
  · next value value' =>
      have base : value.base = value'.base := by
        cases value <;> cases value' <;>
          simp only [Literal.same, Bool.false_eq_true] at same <;> rfl
      simp [AtomicType.widen, AtomicType.same, sameUnions, base]
  · exact same
  · exact same

/-- The widened union of several types is the union of the widened types. -/
theorem widen_distinct_flatten (us : List UnionType) :
    widen (distinct us.flatten) = distinct (us.map widen).flatten := by
  have each : us.map widen = (us.map (List.map AtomicType.widen)).map distinct := by
    rw [List.map_map]
    rfl
  rw [widen, distinct_map_distinct fun a b => same_widen, each, distinct_flatten_map_distinct,
    List.map_flatten]

end UnionType

end PhpHooks
