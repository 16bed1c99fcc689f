import PhpHooks.Corpus.Loading
import PhpHooks.Proofs.RegistryRuns

set_option autoImplicit false

/-!
Loading a corpus is a run of registrations: each descriptor that counts registers its name and its
other names with its kind and its types, in the order of the descriptors.
-/
namespace PhpHooks

/-- What a descriptor registers: nothing if one of its types is not usable. -/
def Descriptor.announcements (d : Descriptor) : List Announcement :=
  match (Corpus.readTypes d.expressions).2 with
  | .ok types =>
      if types.length == d.expressions.length then
        (d.name :: d.aliases).map fun name => ⟨name, d.kind, types.map some⟩
      else []
  | .error _ => []

namespace Corpus

def entryAnnouncements (entries : List (Option Descriptor)) : List Announcement :=
  entries.flatMap fun entry => (entry.map Descriptor.announcements).getD []

def announcements : Corpus → List Announcement
  | .entries descriptors => entryAnnouncements descriptors
  | _ => []

theorem registerNames_registry (kind : HookKind) (types : List UnionType) (names : List Text)
    (r : Registry) :
    (registerNames kind types names r).1 =
      r.announceAll (names.map fun name => ⟨name, kind, types.map some⟩) := by
  induction names generalizing r with
  | nil => rfl
  | cons name rest ih =>
      rw [registerNames, ih, List.map_cons]
      rfl

theorem loadEntries_registry (source : Text) (entries : List (Option Descriptor)) (r : Registry)
    (through : (loadEntries source entries r).fault = none) :
    (loadEntries source entries r).registry = r.announceAll (entryAnnouncements entries) := by
  induction entries generalizing r with
  | nil => rfl
  | cons entry rest ih =>
      rw [entryAnnouncements, List.flatMap_cons, Registry.announceAll_append]
      cases entry with
      | none =>
          rw [loadEntries] at through ⊢
          exact ih r through
      | some d =>
          rw [loadEntries] at through ⊢
          rcases read : readTypes d.expressions with ⟨events, answer⟩
          cases answer with
          | error cause => simp [read] at through
          | ok types =>
              simp only [read] at through ⊢
              rw [Option.map_some, Option.getD_some, Descriptor.announcements, read]
              simp only
              split at through
              · next whole =>
                  rw [if_pos whole, if_pos whole, ← registerNames_registry]
                  exact ih _ through
              · next partly =>
                  rw [if_neg partly, if_neg partly]
                  exact ih r through

theorem load_registry (source : Text) (r : Registry) (corpus : Corpus)
    (through : (corpus.load source r).fault = none) :
    (corpus.load source r).registry = r.announceAll corpus.announcements := by
  cases corpus with
  | entries descriptors => exact loadEntries_registry source descriptors r through
  | unreadable cause => rfl
  | failed cause => rfl
  | withoutHooks => rfl

theorem loadEach_registry (documents : List (Text × Corpus)) (r : Registry)
    (through : (loadEach documents r).fault = none) :
    (loadEach documents r).registry =
      r.announceAll (documents.flatMap fun document => document.2.announcements) := by
  induction documents generalizing r with
  | nil => rfl
  | cons document rest ih =>
      obtain ⟨source, corpus⟩ := document
      rw [List.flatMap_cons, Registry.announceAll_append]
      rw [loadEach] at through ⊢
      simp only at through ⊢
      cases first : (corpus.load source r).fault with
      | some cause => simp [first] at through
      | none =>
          simp only [first] at through ⊢
          rw [← load_registry source r corpus first]
          exact ih _ through

/-- What the documents of a session register, each source once. -/
def allAnnouncements (documents : List (Text × Corpus)) : List Announcement :=
  (distinctSources documents).flatMap fun document => document.2.announcements

/-- Documents are loaded into an empty registry only. -/
theorem loadAll_registry (documents : List (Text × Corpus)) (r : Registry)
    (through : (loadAll documents r).fault = none) :
    (loadAll documents r).registry =
      if r.entries.isEmpty then r.announceAll (allAnnouncements documents) else r := by
  rw [loadAll] at through ⊢
  cases empty : r.entries.isEmpty with
  | false => rfl
  | true =>
      simp only [empty, if_true] at through ⊢
      cases fault : (loadEach (distinctSources documents) r).fault with
      | some cause => simp [fault] at through
      | none => exact loadEach_registry _ r fault

end Corpus
end PhpHooks
