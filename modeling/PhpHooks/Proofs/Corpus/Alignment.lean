import PhpHooks.Proofs.Corpus.AllOrNothing

set_option autoImplicit false

/-!
Where the parameters of a descriptor stand in the registry. A parameter tag without a type gives no
position, so a parameter moves to the front by the number of such tags before it, and by nothing
else.
-/
namespace PhpHooks

section Rank

variable {α : Type} (keep : α → Bool)

/-- An element that is kept moves to the place given by the number of kept ones before it. -/
theorem getElem?_filter_countP {xs : List α} {i : Nat} {x : α} (found : xs[i]? = some x)
    (kept : keep x = true) : (xs.filter keep)[(xs.take i).countP keep]? = some x := by
  induction xs generalizing i with
  | nil => simp at found
  | cons first rest ih =>
      cases i with
      | zero =>
          obtain rfl : first = x := by simpa using found
          simp [kept]
      | succ i =>
          have later := ih (by simpa using found)
          by_cases here : keep first = true <;> simpa [here] using later

end Rank

namespace Registry

/-- A run leaves every entry alone that it does not name. -/
theorem get?_announceAll_of_unnamed (r : Registry) {calls : List Announcement} {name : Text}
    (unnamed : ∀ call ∈ calls, call.name ≠ name) :
    (r.announceAll calls).get? name = r.get? name := by
  induction calls generalizing r with
  | nil => rfl
  | cons call calls ih =>
      rw [List.forall_mem_cons] at unnamed
      calc (r.announceAll (call :: calls)).get? name
          = ((r.announce call).announceAll calls).get? name := rfl
        _ = (r.announce call).get? name := ih (r.announce call) unnamed.2
        _ = r.get? name := by rw [get?_announce, if_neg unnamed.1.symm]

/-- Registering the same types again changes nothing. -/
theorem get?_announceAll_stored (r : Registry) {names : List Text} {name : Text} {kind : HookKind}
    {types : List UnionType} (stored : r.get? name = some ⟨kind, types⟩) :
    (r.announceAll (names.map fun each => ⟨each, kind, types.map some⟩)).get? name =
      some ⟨kind, types⟩ := by
  induction names generalizing r with
  | nil => exact stored
  | cons first names ih =>
      refine ih (r.announce ⟨first, kind, types.map some⟩) ?_
      rw [get?_announce]
      by_cases here : name = first
      · subst here
        simp [merged, stored, Signature.merge, Announcement.supplied]
      · rw [if_neg here, stored]

/-- Under a fresh name the registry holds the types that are registered, however often the name
occurs among those they are registered under. -/
theorem get?_announceAll_fresh (r : Registry) {names : List Text} {name : Text} (kind : HookKind)
    (types : List UnionType) (fresh : r.get? name = none) (named : name ∈ names) :
    (r.announceAll (names.map fun each => ⟨each, kind, types.map some⟩)).get? name =
      some ⟨kind, types⟩ := by
  induction names generalizing r with
  | nil => cases named
  | cons first names ih =>
      have step := r.get?_announce ⟨first, kind, types.map some⟩ name
      -- The name is fresh until it comes up; behind that the same types are registered once more.
      by_cases here : name = first
      · subst here
        rw [if_pos rfl] at step
        refine get?_announceAll_stored (r.announce ⟨name, kind, types.map some⟩) ?_
        rw [step]
        simp [merged, fresh, Announcement.supplied]
      · rw [if_neg here, fresh] at step
        exact ih (r.announce ⟨first, kind, types.map some⟩) step
          ((List.mem_cons.mp named).resolve_left here)

end Registry

namespace Descriptor

def paramTags (d : Descriptor) : List DescriptorTag :=
  d.tags.filter fun tag => tag.name == "param".toList

def isTyped (tag : DescriptorTag) : Bool :=
  !(tagExpression tag).isEmpty

theorem expressions_eq (d : Descriptor) :
    d.expressions = (d.paramTags.filter isTyped).map tagExpression := by
  rw [expressions, List.filter_map]
  rfl

/-- The types of a descriptor are those of its typed parameter tags, each at the place that the
number of typed tags before it gives. -/
theorem aligned_of_expressions {d : Descriptor} {types : List UnionType}
    (spelled : List.Forall₂ (fun t u => normalize (some t) = .ok (some u)) d.expressions types) :
    types.length = d.paramTags.countP isTyped ∧
    ∀ i tag, d.paramTags[i]? = some tag → isTyped tag = true →
      ∃ u, normalize (some (tagExpression tag)) = .ok (some u) ∧
        types[(d.paramTags.take i).countP isTyped]? = some u := by
  rw [expressions_eq, List.forall₂_map_left_iff] at spelled
  refine ⟨?_, ?_⟩
  · rw [List.countP_eq_length_filter, spelled.length_eq]
  · intro i tag found typed
    have placed := getElem?_filter_countP isTyped found typed
    obtain ⟨inside, here⟩ := List.getElem?_eq_some_iff.mp placed
    have bound := spelled.length_eq ▸ inside
    refine ⟨types[(d.paramTags.take i).countP isTyped], ?_, List.getElem?_eq_getElem bound⟩
    have pair := (List.forall₂_iff_get.mp spelled).2 _ inside bound
    simpa [here] using pair

/-- Where every parameter tag has a type, nothing moves. -/
theorem forall₂_paramTags {d : Descriptor} {types : List UnionType}
    (spelled : List.Forall₂ (fun t u => normalize (some t) = .ok (some u)) d.expressions types)
    (typed : ∀ tag ∈ d.paramTags, isTyped tag = true) :
    List.Forall₂ (fun tag u => normalize (some (tagExpression tag)) = .ok (some u))
      d.paramTags types := by
  rw [expressions_eq, List.filter_eq_self.mpr typed, List.forall₂_map_left_iff] at spelled
  exact spelled

end Descriptor

namespace Corpus

/-- An accepted value is reached if nothing in front of it ends the loading. -/
theorem reached_append_cons {validate : JsonValue → Option Descriptor}
    {before after : List JsonValue} {value : JsonValue} {accepted : Descriptor × List UnionType}
    (through : reached validate before = before)
    (given : accepted? validate value = some accepted) :
    reached validate (before ++ value :: after) = before ++ value :: reached validate after := by
  rw [reached, List.takeWhile_eq_self_iff] at through
  have here := entryReadable_of_accepted validate given
  rw [reached, List.takeWhile_append_of_pos through, List.takeWhile_cons, if_pos here, reached]

/-- The values between which an accepted value stands do not matter for a name that is fresh when
it is reached and is not registered again. -/
theorem get?_loadHooks_fresh {validate : JsonValue → Option Descriptor} (source : Text)
    (r : Registry) (before after : List JsonValue) {value : JsonValue} {d : Descriptor}
    {types : List UnionType} {name : Text}
    (through : (loadHooks validate source r before).fault = none)
    (given : accepted? validate value = some (d, types)) (named : name ∈ d.name :: d.aliases)
    (fresh : (loadHooks validate source r before).registry.get? name = none)
    (last : ∀ later ∈ after.filterMap (accepted? validate),
      name ∉ later.1.name :: later.1.aliases) :
    (loadHooks validate source r (before ++ value :: after)).registry.get? name =
      some ⟨d.kind, types⟩ := by
  obtain ⟨registry, -, fault⟩ := loadHooks_reached validate source r before
  have front := fault.mp through
  rw [registry, front] at fresh
  rw [(loadHooks_reached validate source r _).1, reached_append_cons front given,
    List.filterMap_append, List.flatMap_append, Registry.announceAll_append,
    List.filterMap_cons_some given, List.flatMap_cons, Registry.announceAll_append,
    Registry.get?_announceAll_of_unnamed]
  · exact Registry.get?_announceAll_fresh _ d.kind types fresh named
  · intro call listed same
    obtain ⟨later, accepted, registered⟩ := List.mem_flatMap.mp listed
    obtain ⟨each, among, rfl⟩ := List.mem_map.mp registered
    have behind : later ∈ after.filterMap (accepted? validate) :=
      ((List.takeWhile_sublist _).filterMap _).subset accepted
    exact last later behind (same ▸ among)

end Corpus

open Corpus (accepted? loadHooks)
open Descriptor (isTyped tagExpression)

/-- A fresh name gets one type for each parameter tag with a type expression, the one that the
expression spells. A parameter stands as many places to the front as there are tags without an
expression before it; without any such tag it keeps its position. -/
theorem parameters_stand_in_tag_order (validate : JsonValue → Option Descriptor) (source : Text)
    (r : Registry) (before after : List JsonValue) (value : JsonValue) (d : Descriptor)
    (types : List UnionType) (name : Text)
    (through : (loadHooks validate source r before).fault = none)
    (given : accepted? validate value = some (d, types)) (named : name ∈ d.name :: d.aliases)
    (fresh : (loadHooks validate source r before).registry.get? name = none)
    (last : ∀ later ∈ after.filterMap (accepted? validate),
      name ∉ later.1.name :: later.1.aliases) :
    ∃ parameters,
      (loadHooks validate source r (before ++ value :: after)).registry.get? name =
        some ⟨d.kind, parameters⟩ ∧
      parameters.length = d.paramTags.countP isTyped ∧
      (∀ i tag, d.paramTags[i]? = some tag → isTyped tag = true →
        ∃ u, normalize (some (tagExpression tag)) = .ok (some u) ∧
          parameters[(d.paramTags.take i).countP isTyped]? = some u) ∧
      ((∀ tag ∈ d.paramTags, isTyped tag = true) →
        List.Forall₂ (fun tag u => normalize (some (tagExpression tag)) = .ok (some u))
          d.paramTags parameters) := by
  have spelled := ((Corpus.accepted?_eq_some_iff validate value d types).mp given).2
  obtain ⟨length, placed⟩ := Descriptor.aligned_of_expressions spelled
  have stored := Corpus.get?_loadHooks_fresh source r before after through given named fresh
    last
  exact ⟨types, stored, length, placed, Descriptor.forall₂_paramTags spelled⟩

section Example

/-- A hook with a parameter without a type in front of an integer. -/
def looseHook : JsonValue :=
  .object [("name".toList, .string "loose".toList), ("type".toList, .string "action".toList),
    ("doc".toList, .object [("tags".toList, .array
      [.object [("name".toList, .string "param".toList),
        ("content".toList, .string "No type given.".toList)], Corpus.typeTag integer])])]

def looseDescriptor : Descriptor :=
  ⟨"loose".toList, .action, none, [], [], [],
    [⟨"param".toList, "No type given.".toList, none⟩, ⟨"param".toList, [], some [integer.text]⟩]⟩

theorem ofJson?_looseHook : Descriptor.ofJson? looseHook = some looseDescriptor := rfl

theorem expressions_looseDescriptor : looseDescriptor.expressions = [integer.text] := by
  decide

theorem accepted_looseHook :
    accepted? Descriptor.ofJson? looseHook = some (looseDescriptor, [integer]) := by
  rw [Corpus.accepted?_of_expressions _ ofJson?_looseHook expressions_looseDescriptor,
    widened?_integer, Option.map_some]

theorem short_looseHook : Corpus.ShortIntegers Descriptor.ofJson? [looseHook] := by
  rw [Corpus.ShortIntegers, List.forall_mem_singleton, ofJson?_looseHook]
  rintro d ⟨⟩
  exact shortIntegers_of_integer expressions_looseDescriptor

/-- A hook that ends the loading, since its one type is too long an integer. -/
def longHook : JsonValue :=
  Corpus.typesHook "long".toList .action [[.literal (.int tooLong)]]

theorem accepted_longHook : accepted? Descriptor.ofJson? longHook = none := by
  rw [longHook, Corpus.accepted?_of_expressions _ (Corpus.ofJson?_typesHook _ _ _)
    (Corpus.expressions_typesDescriptor _ _ (text_int_ne_nil tooLong)),
    widened?_of_long le_natAbs_tooLong, Option.map_none]

/-- The second parameter of the hook stands at the first position, although the next hook ends the
loading. -/
theorem parameters_looseHook :
    (loadHooks Descriptor.ofJson? [] .empty [looseHook, longHook]).fault ≠ none ∧
    ∃ parameters,
      (loadHooks Descriptor.ofJson? [] .empty [looseHook, longHook]).registry.get?
        "loose".toList = some ⟨.action, parameters⟩ ∧
      parameters.length = 1 ∧
      ∃ u, normalize (some integer.text) = .ok (some u) ∧ parameters[0]? = some u := by
  have last : ∀ later ∈ [longHook].filterMap (accepted? Descriptor.ofJson?),
      "loose".toList ∉ later.1.name :: later.1.aliases := by
    rw [List.filterMap_cons_none accepted_longHook]
    exact List.forall_mem_nil _
  obtain ⟨parameters, stored, length, placed, -⟩ :=
    parameters_stand_in_tag_order Descriptor.ofJson? [] .empty [] [longHook] looseHook
      looseDescriptor [integer] "loose".toList rfl accepted_looseHook List.mem_cons_self rfl last
  have expression : tagExpression ⟨"param".toList, [], some [integer.text]⟩ = integer.text := by
    decide
  have second := placed 1 ⟨"param".toList, [], some [integer.text]⟩ rfl (by decide)
  rw [expression] at second
  have ended := loadHooks_of_long le_natAbs_tooLong [] .empty
    (List.mem_cons_of_mem looseHook (List.mem_singleton_self longHook))
  exact ⟨ended, parameters, stored, length.trans (by decide), second⟩

/-- A parameter tag without a type has no place in the registry. -/
theorem not_one_type_for_each_param :
    ¬ ∀ (source : Text) (r : Registry) (value : JsonValue) (d : Descriptor) (name : Text)
      (signature : Signature), Corpus.ShortIntegers Descriptor.ofJson? [value] →
      Descriptor.ofJson? value = some d → name ∈ d.name :: d.aliases → r.get? name = none →
      (loadHooks Descriptor.ofJson? source r [value]).registry.get? name = some signature →
      List.Forall₂ (fun tag u => if isTyped tag then
          normalize (some (tagExpression tag)) = .ok (some u) else u = UnionType.mixed)
        d.paramTags signature.parameters := by
  intro each
  have stored : (loadHooks Descriptor.ofJson? [] .empty [looseHook]).registry.get?
      "loose".toList = some ⟨.action, [integer]⟩ :=
    Corpus.get?_loadHooks_fresh [] .empty [] [] rfl accepted_looseHook List.mem_cons_self rfl
      (List.forall_mem_nil _)
  have pairs := each [] .empty looseHook looseDescriptor "loose".toList _ short_looseHook
    ofJson?_looseHook List.mem_cons_self rfl stored
  have two : looseDescriptor.paramTags.length = 2 := by decide
  have one := pairs.length_eq
  rw [two] at one
  cases one

end Example

end PhpHooks
