import Mathlib.Data.List.Induction
import PhpHooks.Hook.Registry

set_option autoImplicit false

/-!
Runs of registrations. What a registry holds after any number of registrations is read off the
list of registrations: the first one of a name gives its place and its kind, and the last one long
enough gives each parameter.
-/
namespace PhpHooks

/-- A hook as it is handed to the registry; a missing type is `none`. -/
structure Announcement where
  name : Text
  kind : HookKind
  types : List (Option UnionType)

/-- The types that are there, in order. -/
def Announcement.supplied (call : Announcement) : List UnionType :=
  call.types.filterMap id

namespace Registry

def announce (r : Registry) (call : Announcement) : Registry :=
  (r.register call.name call.kind call.types).1

def announceAll (r : Registry) (calls : List Announcement) : Registry :=
  calls.foldl announce r

@[simp] theorem announceAll_nil (r : Registry) : r.announceAll [] = r := rfl

theorem announceAll_append (r : Registry) (first second : List Announcement) :
    r.announceAll (first ++ second) = (r.announceAll first).announceAll second :=
  List.foldl_append

theorem announceAll_snoc (r : Registry) (calls : List Announcement) (call : Announcement) :
    r.announceAll (calls ++ [call]) = (r.announceAll calls).announce call := by
  rw [announceAll_append]
  rfl

theorem lookup_cons_ite {β : Type} (key : Text) (value : β) (entries : List (Text × β))
    (other : Text) :
    ((key, value) :: entries).lookup other =
      if other = key then some value else entries.lookup other := by
  by_cases same : other = key
  · simp [same]
  · have test : (other == key) = false := beq_eq_false_iff_ne.mpr same
    simp only [List.lookup_cons, test, same, ↓reduceIte]

theorem lookup_put (name : Text) (signature : Signature) (entries : List (Text × Signature))
    (other : Text) :
    (put name signature entries).lookup other =
      if other = name then some signature else entries.lookup other := by
  induction entries with
  | nil => rw [put, lookup_cons_ite]
  | cons entry rest ih =>
      obtain ⟨first, stored⟩ := entry
      by_cases here : first = name
      · rw [put, if_pos (by simpa using here), lookup_cons_ite, lookup_cons_ite, here]
        by_cases same : other = name <;> simp only [same, ↓reduceIte]
      · rw [put, if_neg (by simpa using here), lookup_cons_ite, lookup_cons_ite, ih]
        by_cases same : other = name
        · simp only [same, ↓reduceIte, Ne.symm here]
        · simp only [same, ↓reduceIte]

/-- A name that is there keeps its place, any other goes to the end. -/
theorem names_put (name : Text) (signature : Signature) (entries : List (Text × Signature)) :
    (put name signature entries).map Prod.fst =
      if name ∈ entries.map Prod.fst then entries.map Prod.fst
      else entries.map Prod.fst ++ [name] := by
  induction entries with
  | nil => rfl
  | cons entry rest ih =>
      obtain ⟨first, stored⟩ := entry
      by_cases here : first = name
      · simp [put, here]
      · rw [put, if_neg (by simpa using here), List.map_cons, ih]
        by_cases later : name ∈ rest.map Prod.fst
        · simp [later]
        · simp [later, Ne.symm here]

/-- The entry of the registered name is the merged one, every other entry stays. -/
theorem get?_register (r : Registry) (name : Text) (kind : HookKind)
    (types : List (Option UnionType)) (other : Text) :
    (r.register name kind types).1.get? other =
      if other = name then some (r.merged name kind (types.filterMap id)) else r.get? other :=
  lookup_put name _ r.entries other

theorem get?_announce (r : Registry) (call : Announcement) (other : Text) :
    (r.announce call).get? other =
      if other = call.name then some (r.merged call.name call.kind call.supplied)
      else r.get? other :=
  get?_register r call.name call.kind call.types other

theorem mem_names_iff (r : Registry) (name : Text) :
    name ∈ r.names ↔ ∃ signature, r.get? name = some signature := by
  rw [← Option.isSome_iff_exists, get?, List.lookup_isSome_iff]
  simp [names]

theorem names_announce (r : Registry) (call : Announcement) :
    (r.announce call).names = if call.name ∈ r.names then r.names else r.names ++ [call.name] :=
  names_put call.name _ r.entries

def kind? (r : Registry) (name : Text) : Option HookKind :=
  (r.get? name).map Signature.kind

def parameters (r : Registry) (name : Text) : List UnionType :=
  ((r.get? name).map Signature.parameters).getD []

theorem kind?_announce (r : Registry) (call : Announcement) (name : Text) :
    (r.announce call).kind? name =
      (r.kind? name).or (if name = call.name then some call.kind else none) := by
  rw [kind?, get?_announce]
  by_cases same : name = call.name
  · subst same
    cases stored : r.get? call.name <;> simp [kind?, merged, stored, Signature.merge]
  · simp [kind?, same]

theorem parameters_announce (r : Registry) (call : Announcement) (name : Text) :
    (r.announce call).parameters name =
      if name = call.name then
        call.supplied ++ (r.parameters name).drop call.supplied.length
      else r.parameters name := by
  rw [parameters, get?_announce]
  by_cases same : name = call.name
  · subst same
    cases stored : r.get? call.name <;> simp [parameters, merged, stored, Signature.merge]
  · simp [parameters, same]

/-- The first announcement of a name decides its kind, unless the registry knows it already. -/
theorem kind?_announceAll (r : Registry) (calls : List Announcement) (name : Text) :
    (r.announceAll calls).kind? name =
      (r.kind? name).or ((calls.find? fun call => call.name == name).map Announcement.kind) := by
  induction calls generalizing r with
  | nil => simp
  | cons call rest ih =>
      have step : r.announceAll (call :: rest) = (r.announce call).announceAll rest := rfl
      rw [step, ih, kind?_announce, Option.or_assoc]
      by_cases same : call.name = name
      · simp [same]
      · simp [same, Ne.symm same]

/-- One more element leaves the first occurrences as they are and adds itself if it is new. -/
theorem eraseDups_concat (names : List Text) (name : Text) :
    (names ++ [name]).eraseDups =
      if name ∈ names then names.eraseDups else names.eraseDups ++ [name] := by
  rw [List.eraseDups_append]
  by_cases known : name ∈ names
  · have gone : [name].removeAll names = [] := by simpa [List.removeAll] using known
    simp [known, gone]
  · have kept : [name].removeAll names = [name] := by simpa [List.removeAll] using known
    simp only [known, ↓reduceIte, kept]
    rfl

theorem names_announceAll (calls : List Announcement) :
    (empty.announceAll calls).names = (calls.map Announcement.name).eraseDups := by
  induction calls using List.reverseRecOn with
  | nil => rfl
  | append_singleton calls call ih =>
      rw [announceAll_snoc, names_announce, ih, List.map_append, List.map_singleton,
        eraseDups_concat]
      simp only [List.mem_eraseDups]

theorem nodup_names_announce {r : Registry} (unique : r.names.Nodup) (call : Announcement) :
    (r.announce call).names.Nodup := by
  rw [names_announce]
  by_cases known : call.name ∈ r.names
  · rw [if_pos known]
    exact unique
  · rw [if_neg known]
    refine List.nodup_append.mpr ⟨unique, by simp, ?_⟩
    intro name old new present same
    rw [List.mem_singleton.mp present] at same
    exact known (same ▸ old)

theorem nodup_names_after {r : Registry} (unique : r.names.Nodup) (calls : List Announcement) :
    (r.announceAll calls).names.Nodup := by
  induction calls generalizing r with
  | nil => exact unique
  | cons call rest ih => exact ih (nodup_names_announce unique call)

theorem nodup_names_announceAll (calls : List Announcement) :
    (empty.announceAll calls).names.Nodup := by
  have unique : empty.names.Nodup := List.nodup_nil
  exact nodup_names_after unique calls

def longestSupply (calls : List Announcement) (name : Text) : Nat :=
  ((calls.filter fun call => call.name == name).map fun call => call.supplied.length).foldl max 0

/-- Entry `i` of the last list supplied for a name that is longer than `i`. -/
def lastSupply? (calls : List Announcement) (name : Text) (i : Nat) : Option UnionType :=
  (calls.reverse.find? fun call => call.name == name && i < call.supplied.length).bind
    fun call => call.supplied[i]?

theorem length_parameters_announceAll (calls : List Announcement) (name : Text) :
    ((empty.announceAll calls).parameters name).length = longestSupply calls name := by
  induction calls using List.reverseRecOn with
  | nil => rfl
  | append_singleton calls call ih =>
      rw [announceAll_snoc, parameters_announce, longestSupply, List.filter_append,
        List.map_append, List.foldl_append]
      by_cases same : name = call.name
      · rw [if_pos same, List.length_append, List.length_drop, ih]
        simp [same, longestSupply]
        omega
      · rw [if_neg same, ih]
        simp [longestSupply, Ne.symm same]

theorem lastSupply?_snoc (calls : List Announcement) (call : Announcement) (name : Text) (i : Nat) :
    lastSupply? (calls ++ [call]) name i =
      if name = call.name ∧ i < call.supplied.length then call.supplied[i]?
      else lastSupply? calls name i := by
  rw [lastSupply?, List.reverse_append, List.reverse_singleton, List.singleton_append,
    List.find?_cons]
  by_cases same : name = call.name
  · by_cases reached : i < call.supplied.length
    · simp [same, reached]
    · simp [same, reached, lastSupply?]
  · have other : (call.name == name) = false := beq_eq_false_iff_ne.mpr (Ne.symm same)
    simp [same, other, lastSupply?]

/-- What no announcement supplies stays as it was stored. -/
theorem getElem?_parameters_announceAll (r : Registry) (calls : List Announcement) (name : Text)
    (i : Nat) :
    ((r.announceAll calls).parameters name)[i]? =
      (lastSupply? calls name i).or (r.parameters name)[i]? := by
  induction calls using List.reverseRecOn with
  | nil => rfl
  | append_singleton calls call ih =>
      rw [announceAll_snoc, parameters_announce, lastSupply?_snoc]
      by_cases same : name = call.name
      · by_cases reached : i < call.supplied.length
        · simp [same, reached, List.getElem?_append_left]
        · have back : call.supplied.length + (i - call.supplied.length) = i := by omega
          rw [if_pos same, if_neg (by simp [reached]), ← ih,
            List.getElem?_append_right (Nat.le_of_not_lt reached), List.getElem?_drop, back]
      · rw [if_neg same, if_neg (by simp [same]), ih]

theorem parameters_announceAll_getElem? (calls : List Announcement) (name : Text) (i : Nat) :
    ((empty.announceAll calls).parameters name)[i]? = lastSupply? calls name i := by
  have nothing : (empty.parameters name)[i]? = none := rfl
  rw [getElem?_parameters_announceAll, nothing, Option.or_none]

theorem names_prefix_announceAll (r : Registry) (calls : List Announcement) :
    r.names <+: (r.announceAll calls).names := by
  induction calls generalizing r with
  | nil => exact List.prefix_rfl
  | cons call rest ih =>
      have step : r.names <+: (r.announce call).names := by
        rw [names_announce]
        by_cases known : call.name ∈ r.names <;> simp [known]
      exact step.trans (ih (r.announce call))

theorem length_parameters_announceAll_mono (r : Registry) (calls : List Announcement)
    (name : Text) :
    (r.parameters name).length ≤ ((r.announceAll calls).parameters name).length := by
  induction calls generalizing r with
  | nil => exact Nat.le_refl _
  | cons call rest ih =>
      have step : (r.parameters name).length ≤ ((r.announce call).parameters name).length := by
        rw [parameters_announce]
        by_cases same : name = call.name
        · rw [if_pos same, List.length_append, List.length_drop]
          omega
        · simp [same]
      exact Nat.le_trans step (ih (r.announce call))

theorem get?_eq_some_iff (r : Registry) (name : Text) (signature : Signature) :
    r.get? name = some signature ↔
      r.kind? name = some signature.kind ∧ r.parameters name = signature.parameters := by
  obtain ⟨kind, parameters⟩ := signature
  cases stored : r.get? name with
  | none => simp [kind?, stored]
  | some found =>
      obtain ⟨foundKind, foundParameters⟩ := found
      simp [kind?, Registry.parameters, stored]

/-- A registry in closed form. It holds the announced names, each once and in the order of their
first announcements; the kind is that of the first, the number of parameters the most that was
supplied, and each parameter comes from the last supply that reaches it. So an announcement
answers with the entry that it leaves, touches no other entry, and what follows it removes no
name, changes no kind and shortens no list. -/
theorem registry_closed_form (calls : List Announcement) :
    (empty.announceAll calls).names = (calls.map Announcement.name).eraseDups ∧
    (empty.announceAll calls).names.Nodup ∧
    (∀ name, (∃ signature, (empty.announceAll calls).get? name = some signature) ↔
      ∃ call ∈ calls, call.name = name) ∧
    (∀ name signature, (empty.announceAll calls).get? name = some signature →
      (calls.find? fun call => call.name == name).map Announcement.kind = some signature.kind ∧
      signature.parameters.length = longestSupply calls name ∧
      ∀ i, signature.parameters[i]? = lastSupply? calls name i) ∧
    (∀ earlier call later, calls = earlier ++ call :: later →
      ((empty.announceAll earlier).register call.name call.kind call.types).2 =
        (empty.announceAll earlier).merged call.name call.kind call.supplied ∧
      (empty.announceAll (earlier ++ [call])).get? call.name =
        some ((empty.announceAll earlier).register call.name call.kind call.types).2 ∧
      (∀ other, other ≠ call.name →
        (empty.announceAll (earlier ++ [call])).get? other =
          (empty.announceAll earlier).get? other) ∧
      (empty.announceAll earlier).names <+: (empty.announceAll calls).names ∧
      ∀ name stored, (empty.announceAll earlier).get? name = some stored →
        ∃ signature, (empty.announceAll calls).get? name = some signature ∧
          signature.kind = stored.kind ∧
          stored.parameters.length ≤ signature.parameters.length) := by
  have named : ∀ name, (∃ signature, (empty.announceAll calls).get? name = some signature) ↔
      ∃ call ∈ calls, call.name = name := by
    intro name
    rw [← mem_names_iff, names_announceAll, List.mem_eraseDups, List.mem_map]
  refine ⟨names_announceAll calls, nodup_names_announceAll calls, named, ?_, ?_⟩
  · intro name signature found
    obtain ⟨kind, parameters⟩ := (get?_eq_some_iff _ _ _).mp found
    refine ⟨?_, ?_, ?_⟩
    · rw [← kind, kind?_announceAll]
      rfl
    · rw [← parameters, length_parameters_announceAll]
    · intro i
      rw [← parameters, parameters_announceAll_getElem?]
  · rintro earlier call later rfl
    refine ⟨rfl, ?_, ?_, ?_, ?_⟩
    · rw [announceAll_snoc, get?_announce, if_pos rfl]
      rfl
    · intro other away
      rw [announceAll_snoc, get?_announce, if_neg away]
    · rw [announceAll_append]
      exact names_prefix_announceAll _ _
    · intro name stored found
      obtain ⟨kind, parameters⟩ := (get?_eq_some_iff _ _ _).mp found
      have kept : (empty.announceAll (earlier ++ call :: later)).kind? name = some stored.kind := by
        rw [announceAll_append, kind?_announceAll, kind, Option.some_or]
      obtain ⟨signature, present, same⟩ := Option.map_eq_some_iff.mp kept
      refine ⟨signature, present, same, ?_⟩
      have grown := length_parameters_announceAll_mono (empty.announceAll earlier)
        (call :: later) name
      rw [← announceAll_append, parameters, ((get?_eq_some_iff _ _ _).mp present).2] at grown
      exact grown

end Registry
end PhpHooks
