import PhpHooks.Proofs.Session.ClosedForm
import PhpHooks.Proofs.Session.Operations
import PhpHooks.TypeExpr.Printer

set_option autoImplicit false

/-!
Analysing the same sources again. On the way through the second pass entries may change, but they
settle back: a documented list overwrites whatever was there, so of each position the last one
that reaches it decides in both passes, and an inferred list is only ever the first.
-/
namespace PhpHooks

namespace Registry

theorem contains_iff (r : Registry) (name : Text) : r.contains name = true ↔ name ∈ r.names := by
  rw [mem_names_iff, contains, Option.isSome_iff_exists]

theorem mem_names_announce (r : Registry) (call : Announcement) (name : Text) :
    name ∈ (r.announce call).names ↔ name ∈ r.names ∨ name = call.name := by
  rw [names_announce]
  by_cases known : call.name ∈ r.names
  · rw [if_pos known]
    constructor
    · exact Or.inl
    · rintro (old | rfl)
      · exact old
      · exact known
  · rw [if_neg known, List.mem_append, List.mem_singleton]

theorem names_announceAll_of_known {r : Registry} {calls : List Announcement}
    (known : ∀ call ∈ calls, call.name ∈ r.names) : (r.announceAll calls).names = r.names := by
  induction calls generalizing r with
  | nil => rfl
  | cons call rest ih =>
      rw [List.forall_mem_cons] at known
      have same : (r.announce call).names = r.names := by rw [names_announce, if_pos known.1]
      have later := ih (r := r.announce call) (by rw [same]; exact known.2)
      rw [← same]
      exact later

theorem lookup_of_not_mem {name : Text} {entries : List (Text × Signature)}
    (absent : name ∉ entries.map Prod.fst) : entries.lookup name = none := by
  apply List.lookup_eq_none_iff.mpr
  intro entry inside
  have other : name ≠ entry.1 := fun same => absent (same ▸ List.mem_map_of_mem inside)
  simpa using other

/-- Entries are determined by their names in order and by what is found under each. -/
theorem entries_ext {first second : List (Text × Signature)}
    (unique : (first.map Prod.fst).Nodup) (names : first.map Prod.fst = second.map Prod.fst)
    (found : ∀ name, first.lookup name = second.lookup name) : first = second := by
  induction first generalizing second with
  | nil => exact (List.map_eq_nil_iff.mp names.symm).symm
  | cons entry rest ih =>
      cases second with
      | nil => cases names
      | cons other others =>
          obtain ⟨name, signature⟩ := entry
          obtain ⟨name', signature'⟩ := other
          rw [List.map_cons, List.map_cons, List.cons.injEq] at names
          obtain ⟨rfl, names⟩ := names
          rw [List.map_cons, List.nodup_cons] at unique
          have here := found name
          rw [lookup_cons_ite, lookup_cons_ite, if_pos rfl, if_pos rfl, Option.some.injEq] at here
          have behind : rest = others := by
            apply ih unique.2 names
            intro key
            by_cases same : key = name
            · rw [same, lookup_of_not_mem unique.1, lookup_of_not_mem (names ▸ unique.1)]
            · have later := found key
              rwa [lookup_cons_ite, lookup_cons_ite, if_neg same, if_neg same] at later
          rw [here, behind]

/-- The registry is what the announcements would leave of it: their names are known, and of each
position the last of them that reaches it has decided. -/
structure Reflects (r : Registry) (calls : List Announcement) : Prop where
  known : ∀ call ∈ calls, call.name ∈ r.names
  latest : ∀ name i u, lastSupply? calls name i = some u → (r.parameters name)[i]? = some u

namespace Reflects

variable {calls : List Announcement} {r : Registry}

theorem nil (r : Registry) : r.Reflects [] :=
  ⟨by simp, by simp [lastSupply?]⟩

theorem announce (reflects : r.Reflects calls) (call : Announcement) :
    (r.announce call).Reflects (calls ++ [call]) where
  known := by
    rw [List.forall_mem_append, List.forall_mem_singleton]
    refine ⟨?_, (mem_names_announce r call _).mpr (Or.inr rfl)⟩
    intro other inside
    exact (mem_names_announce r call _).mpr (Or.inl (reflects.known other inside))
  latest := by
    intro name i u last
    rw [lastSupply?_snoc] at last
    have stored := getElem?_parameters_announceAll r [call] name i
    have alone := lastSupply?_snoc [] call name i
    rw [List.nil_append] at alone
    rw [alone] at stored
    by_cases writes : name = call.name ∧ i < call.supplied.length
    · rw [if_pos writes] at last stored
      rw [last, Option.some_or] at stored
      exact stored
    · rw [if_neg writes] at last stored
      exact stored.trans (reflects.latest name i u last)

theorem announceAll (reflects : r.Reflects calls) (more : List Announcement) :
    (r.announceAll more).Reflects (calls ++ more) := by
  induction more generalizing calls r with
  | nil =>
      rw [List.append_nil]
      exact reflects
  | cons call rest ih =>
      have next := ih (reflects.announce call)
      rwa [List.append_assoc, List.singleton_append] at next

theorem lastSupply?_eq_none {name : Text} (absent : ∀ call ∈ calls, call.name ≠ name) (i : Nat) :
    lastSupply? calls name i = none := by
  have none : (calls.reverse.find? fun call => call.name == name && i < call.supplied.length) =
      none := by
    rw [List.find?_eq_none]
    intro call inside
    simp [absent call (List.mem_reverse.mp inside)]
  rw [lastSupply?, none, Option.bind_none]

/-- An announcement of a new name reaches no position that others have decided. -/
theorem announce_new (reflects : r.Reflects calls) {call : Announcement}
    (new : call.name ∉ r.names) : (r.announce call).Reflects calls where
  known other inside := (mem_names_announce r call _).mpr (Or.inl (reflects.known other inside))
  latest name i u last := by
    have other : name ≠ call.name := by
      rintro rfl
      have unannounced : ∀ earlier ∈ calls, earlier.name ≠ call.name := by
        intro earlier inside same
        exact new (same ▸ reflects.known earlier inside)
      rw [lastSupply?_eq_none unannounced] at last
      cases last
    rw [parameters_announce, if_neg other]
    exact reflects.latest name i u last

theorem kind?_announceAll_eq (reflects : r.Reflects calls) (name : Text) :
    (r.announceAll calls).kind? name = r.kind? name := by
  rw [kind?_announceAll]
  cases stored : r.kind? name with
  | some kind => rfl
  | none =>
      have unannounced : (calls.find? fun call => call.name == name) = none := by
        rw [List.find?_eq_none]
        intro call inside same
        obtain ⟨signature, found⟩ := (mem_names_iff r _).mp (reflects.known call inside)
        rw [beq_iff_eq.mp same] at found
        simp [kind?, found] at stored
      rw [unannounced]
      rfl

theorem parameters_announceAll_eq (reflects : r.Reflects calls) (name : Text) :
    (r.announceAll calls).parameters name = r.parameters name := by
  apply List.ext_getElem?
  intro i
  rw [getElem?_parameters_announceAll]
  cases last : lastSupply? calls name i with
  | none => rfl
  | some u => exact (reflects.latest name i u last).symm

/-- Announcements that the registry reflects already change nothing. -/
theorem announceAll_eq (reflects : r.Reflects calls) (unique : r.names.Nodup) :
    r.announceAll calls = r := by
  have names : (r.announceAll calls).names = r.names := names_announceAll_of_known reflects.known
  have found : ∀ name, (r.announceAll calls).get? name = r.get? name := by
    intro name
    apply Option.ext
    intro signature
    rw [get?_eq_some_iff, get?_eq_some_iff, reflects.kind?_announceAll_eq,
      reflects.parameters_announceAll_eq]
  have same : (r.announceAll calls).entries = r.entries :=
    entries_ext (by rw [← names] at unique; exact unique) names found
  exact congrArg Registry.mk same

end Reflects

end Registry

def DocumentedHook.announcement (hook : DocumentedHook) : Announcement :=
  ⟨hook.name, hook.kind, hook.types.map some⟩

namespace Source

/-- No type in the comments of the source has an integer too long to read. -/
def Readable (source : Source) : Prop :=
  ∃ hooks, (DocComments.collect source.visits).2 = .ok hooks

def announcements (source : Source) : List Announcement :=
  match (DocComments.collect source.visits).2 with
  | .ok hooks => hooks.map DocumentedHook.announcement
  | .error _ => []

/-- The registry after calls, each of which registers the hook that it invokes if it is new. -/
def followed (source : Source) (r : Registry) (calls : List (Call Node)) : Registry :=
  calls.foldl (fun r call => (CallSites.infer source.evidentType? r call).1) r

def analyzed (r : Registry) (source : Source) : Registry :=
  source.followed (r.announceAll source.announcements) source.calls

end Source

/-- A call leaves the registry if it invokes no new hook, and otherwise announces the hook. -/
theorem CallSites.infer_cases {ε : Type} (typeOf : ε → Option UnionType) (r : Registry)
    (call : Call ε) :
    ((infer typeOf r call).1 = r ∧ ∀ hook ∈ call.invoked, hook.1 ∈ r.names) ∨
      ∃ announcement : Announcement, announcement.name ∉ r.names ∧
        call.invoked = [announcement.hook] ∧
        (infer typeOf r call).1 = r.announce announcement := by
  rw [infer, inferred?, Call.invoked]
  cases FunctionName.invocation? call.function with
  | none => exact Or.inl ⟨rfl, by simp⟩
  | some kind =>
      cases call.hook? with
      | none => exact Or.inl ⟨rfl, by simp⟩
      | some name =>
          by_cases known : r.contains name = true
          · refine Or.inl ⟨by simp only [known, if_true], ?_⟩
            simpa using (Registry.contains_iff r name).mp known
          · let types := (call.arguments.drop 1).map (argumentType typeOf)
            refine Or.inr ⟨⟨name, kind, types.map some⟩, ?_, rfl, ?_⟩
            · exact fun listed => known ((Registry.contains_iff r name).mpr listed)
            · simp only [known, if_false, Bool.false_eq_true]
              rfl

namespace Source

variable {source : Source} {r : Registry}

theorem followed_cons (source : Source) (r : Registry) (call : Call Node)
    (rest : List (Call Node)) :
    source.followed r (call :: rest) =
      source.followed (CallSites.infer source.evidentType? r call).1 rest := rfl

theorem names_subset_announceAll (r : Registry) (calls : List Announcement) {name : Text}
    (listed : name ∈ r.names) : name ∈ (r.announceAll calls).names :=
  (Registry.names_prefix_announceAll r calls).subset listed

theorem mem_names_infer (call : Call Node) {name : Text} (listed : name ∈ r.names) :
    name ∈ (CallSites.infer source.evidentType? r call).1.names := by
  rcases CallSites.infer_cases source.evidentType? r call with ⟨same, -⟩ | ⟨new, -, -, same⟩
  · rwa [same]
  · rw [same]
    exact (Registry.mem_names_announce r new name).mpr (Or.inl listed)

/-- After its calls the registry knows all hooks that a source invokes. -/
theorem mem_names_followed (calls : List (Call Node)) {name : Text}
    (listed : name ∈ r.names ∨ ∃ hook ∈ calls.flatMap Call.invoked, hook.1 = name) :
    name ∈ (source.followed r calls).names := by
  induction calls generalizing r with
  | nil =>
      rcases listed with old | ⟨hook, inside, -⟩
      · exact old
      · cases inside
  | cons call rest ih =>
      rw [followed_cons]
      apply ih
      rcases listed with old | ⟨hook, inside, rfl⟩
      · exact Or.inl (mem_names_infer call old)
      · rw [List.flatMap_cons, List.mem_append] at inside
        rcases inside with first | later
        · left
          rcases CallSites.infer_cases source.evidentType? r call with ⟨same, known⟩ |
            ⟨new, -, invoked, same⟩
          · rw [same]
            exact known hook first
          · rw [invoked, List.mem_singleton] at first
            rw [same, first]
            exact (Registry.mem_names_announce r new _).mpr (Or.inr rfl)
        · exact Or.inr ⟨hook, later, rfl⟩

theorem documentedHooks_eq (source : Source) :
    source.documentedHooks = source.announcements.map Announcement.hook := by
  rw [documentedHooks, announcements]
  cases (DocComments.collect source.visits).2 with
  | error cause => rfl
  | ok hooks =>
      rw [List.map_map]
      rfl

/-- After a source the registry knows all that it knew and all hooks of the source. -/
theorem mem_names_analyzed {name : Text}
    (listed : name ∈ r.names ∨ ∃ hook ∈ source.hooks, hook.1 = name) :
    name ∈ (analyzed r source).names := by
  apply mem_names_followed
  rcases listed with old | ⟨hook, inside, rfl⟩
  · exact Or.inl (names_subset_announceAll r _ old)
  · rw [hooks, List.mem_append, ← calls_eq] at inside
    rcases inside with documented | invoked
    · left
      rw [documentedHooks_eq] at documented
      obtain ⟨announcement, announced, rfl⟩ := List.mem_map.mp documented
      have known := (Registry.Reflects.nil r).announceAll source.announcements
      exact known.known announcement announced
    · exact Or.inr ⟨hook, invoked, rfl⟩

theorem reflects_followed {docs : List Announcement} (reflects : r.Reflects docs)
    (calls : List (Call Node)) : (source.followed r calls).Reflects docs := by
  induction calls generalizing r with
  | nil => exact reflects
  | cons call rest ih =>
      rw [followed_cons]
      apply ih
      rcases CallSites.infer_cases source.evidentType? r call with ⟨same, -⟩ |
        ⟨new, unknown, -, same⟩
      · rwa [same]
      · rw [same]
        exact reflects.announce_new unknown

/-- Calls that invoke known hooks only leave the registry as it is. -/
theorem followed_of_known {calls : List (Call Node)}
    (known : ∀ hook ∈ calls.flatMap Call.invoked, hook.1 ∈ r.names) :
    source.followed r calls = r := by
  induction calls generalizing r with
  | nil => rfl
  | cons call rest ih =>
      rw [List.flatMap_cons, List.forall_mem_append] at known
      have same : (CallSites.infer source.evidentType? r call).1 = r := by
        rcases CallSites.infer_cases source.evidentType? r call with ⟨same, -⟩ |
          ⟨new, unknown, invoked, -⟩
        · exact same
        · exact absurd (known.1 new.hook (by simp [invoked])) unknown
      rw [followed_cons, same]
      exact ih known.2

/-- Of a source whose hooks are all known only the documentation has an effect. -/
theorem analyzed_of_known (known : ∀ hook ∈ source.hooks, hook.1 ∈ r.names) :
    analyzed r source = r.announceAll source.announcements := by
  rw [hooks, List.forall_mem_append, ← calls_eq] at known
  apply followed_of_known
  exact fun hook invoked => names_subset_announceAll r _ (known.2 hook invoked)

def analyzedAll (r : Registry) (sources : List Source) : Registry :=
  sources.foldl analyzed r

theorem mem_names_analyzedAll (sources : List Source) {name : Text}
    (listed : name ∈ r.names ∨ ∃ hook ∈ sources.flatMap hooks, hook.1 = name) :
    name ∈ (analyzedAll r sources).names := by
  induction sources generalizing r with
  | nil =>
      rcases listed with old | ⟨hook, inside, -⟩
      · exact old
      · cases inside
  | cons first rest ih =>
      show name ∈ (analyzedAll (analyzed r first) rest).names
      apply ih
      rcases listed with old | ⟨hook, inside, rfl⟩
      · exact Or.inl (mem_names_analyzed (Or.inl old))
      · rw [List.flatMap_cons, List.mem_append] at inside
        rcases inside with own | later
        · exact Or.inl (mem_names_analyzed (Or.inr ⟨hook, own, rfl⟩))
        · exact Or.inr ⟨hook, later, rfl⟩

/-- After the first pass the registry reflects the documentation of all sources. -/
theorem reflects_analyzedAll {docs : List Announcement} (reflects : r.Reflects docs)
    (sources : List Source) :
    (analyzedAll r sources).Reflects (docs ++ sources.flatMap announcements) := by
  induction sources generalizing r docs with
  | nil =>
      rw [List.flatMap_nil, List.append_nil]
      exact reflects
  | cons first rest ih =>
      have documented := reflects.announceAll first.announcements
      have kept : (first.analyzed r).Reflects (docs ++ first.announcements) :=
        reflects_followed documented first.calls
      have next := ih kept
      rw [List.append_assoc, ← List.flatMap_cons] at next
      exact next

/-- The second pass writes the documentation of all sources again, and nothing else. -/
theorem analyzedAll_of_known {sources : List Source}
    (known : ∀ hook ∈ sources.flatMap hooks, hook.1 ∈ r.names) :
    analyzedAll r sources = r.announceAll (sources.flatMap announcements) := by
  induction sources generalizing r with
  | nil => rfl
  | cons first rest ih =>
      rw [List.flatMap_cons, List.forall_mem_append] at known
      have here := analyzed_of_known known.1
      have later := ih (r := r.announceAll first.announcements)
        fun hook inside => names_subset_announceAll r _ (known.2 hook inside)
      rw [List.flatMap_cons, Registry.announceAll_append, ← later, ← here]
      rfl

theorem nodup_names_followed (unique : r.names.Nodup) (calls : List (Call Node)) :
    (source.followed r calls).names.Nodup := by
  induction calls generalizing r with
  | nil => exact unique
  | cons call rest ih =>
      rw [followed_cons]
      apply ih
      rcases CallSites.infer_cases source.evidentType? r call with ⟨same, -⟩ | ⟨new, -, -, same⟩
      · rwa [same]
      · rw [same]
        exact Registry.nodup_names_announce unique new

theorem nodup_names_analyzedAll (unique : r.names.Nodup) (sources : List Source) :
    (analyzedAll r sources).names.Nodup := by
  induction sources generalizing r with
  | nil => exact unique
  | cons first rest ih =>
      have documented := Registry.nodup_names_after unique first.announcements
      exact ih (nodup_names_followed documented first.calls)

/-- A second pass over the same sources leaves the registry of the first. -/
theorem analyzedAll_again (unique : r.names.Nodup) (sources : List Source) :
    analyzedAll (analyzedAll r sources) sources = analyzedAll r sources := by
  have known : ∀ hook ∈ sources.flatMap hooks, hook.1 ∈ (analyzedAll r sources).names :=
    fun hook inside => mem_names_analyzedAll sources (Or.inr ⟨hook, inside, rfl⟩)
  have reflects := reflects_analyzedAll (Registry.Reflects.nil r) sources
  rw [List.nil_append] at reflects
  rw [analyzedAll_of_known known]
  exact reflects.announceAll_eq (nodup_names_analyzedAll unique sources)

end Source

namespace Session

variable {fs : FileSystem} {s t : Session}

theorem registerAll_registry (s : Session) (hooks : List DocumentedHook) :
    (hooks.foldl (fun s hook => s.register hook.name hook.kind hook.types) s).registry =
      s.registry.announceAll (hooks.map DocumentedHook.announcement) := by
  induction hooks generalizing s with
  | nil => rfl
  | cons hook rest ih => exact ih (s.register hook.name hook.kind hook.types)

theorem beforeFile_eq {source : Source} (readable : source.Readable) :
    ∃ m count, s.beforeFile source = (m, .ok count) ∧
      m.registry = s.registry.announceAll source.announcements := by
  obtain ⟨hooks, read⟩ := readable
  rw [beforeFile, Source.announcements, read]
  rcases collected : DocComments.collect source.visits with ⟨events, answer⟩
  rw [collected] at read
  subst read
  refine ⟨_, _, rfl, ?_⟩
  have registered := registerAll_registry (s.note events) hooks
  split
  · exact registered
  · exact registered

theorem readable_of_analyze {source : Source} (done : s.analyze fs source = (t, .ok ())) :
    source.Readable := by
  rw [analyze, beforeFile] at done
  rcases collected : DocComments.collect source.visits with ⟨events, answer⟩
  cases answer with
  | error cause => simp [collected] at done
  | ok hooks => exact ⟨hooks, by rw [collected]⟩

theorem infer_of_not_invocation {ε : Type} {typeOf : ε → Option UnionType} {r : Registry}
    {call : Call ε} (other : FunctionName.invocation? call.function = none) :
    (CallSites.infer typeOf r call).1 = r := by
  simp [CallSites.infer, CallSites.inferred?, other]

/-- In a settled session calls are followed to the end. -/
theorem Settled.followCalls (settled : s.Settled fs) (source : Source)
    (calls : List (Call Node)) :
    ∃ m, followCalls fs source s calls = (m, .ok ()) ∧
      m.registry = source.followed s.registry calls ∧ m.Settled fs := by
  induction calls generalizing s with
  | nil => exact ⟨s, rfl, rfl, settled⟩
  | cons call rest ih =>
      rw [Session.followCalls, Source.followed_cons]
      by_cases invokes : (FunctionName.invocation? call.function).isSome = true
      · rw [if_pos invokes]
        exact ih (settled.afterInvocation source.evidentType? call)
      rw [if_neg invokes, infer_of_not_invocation (Option.not_isSome_iff_eq_none.mp invokes)]
      by_cases registers : (FunctionName.registration? call.function).isSome = true
      · obtain ⟨m, parameters, checked, same, still⟩ := settled.registrationParams [] call
        rw [if_pos registers, checked, ← same]
        exact ih still
      · rw [if_neg registers]
        exact ih settled

theorem Settled.analyze (settled : s.Settled fs) {source : Source} (readable : source.Readable) :
    ∃ m, s.analyze fs source = (m, .ok ()) ∧ m.registry = Source.analyzed s.registry source ∧
      m.Settled fs := by
  obtain ⟨m, count, documented, registry⟩ := beforeFile_eq (s := s) readable
  have between : m.Settled fs := by
    have after := settled.beforeFile source
    rwa [documented] at after
  obtain ⟨last, followed, same, still⟩ := between.followCalls source source.calls
  refine ⟨last, ?_, ?_, still⟩
  · rw [Session.analyze, documented]
    exact followed
  · rw [same, registry]
    rfl

/-- In a settled session sources whose comments can be read are analysed to the end. -/
theorem Settled.analyzeEach (settled : s.Settled fs) {sources : List Source}
    (readable : ∀ source ∈ sources, source.Readable) :
    ∃ m, analyzeEach fs s sources = (m, .ok ()) ∧
      m.registry = Source.analyzedAll s.registry sources ∧ m.Settled fs := by
  induction sources generalizing s with
  | nil => exact ⟨s, rfl, rfl, settled⟩
  | cons source rest ih =>
      rw [List.forall_mem_cons] at readable
      obtain ⟨m, analyzed, registry, between⟩ := settled.analyze readable.1
      obtain ⟨last, followed, same, still⟩ := ih between readable.2
      refine ⟨last, ?_, ?_, still⟩
      · rw [Session.analyzeEach, analyzed]
        exact followed
      · rw [same, registry]
        rfl

theorem readable_of_analyzeEach {sources : List Source}
    (done : analyzeEach fs s sources = (t, .ok ())) : ∀ source ∈ sources, source.Readable := by
  induction sources generalizing s with
  | nil => simp
  | cons source rest ih =>
      rw [analyzeEach] at done
      rcases analyzed : s.analyze fs source with ⟨m, answer⟩
      rw [analyzed] at done
      cases answer with
      | error cause => simp at done
      | ok _ => exact List.forall_mem_cons.mpr ⟨readable_of_analyze analyzed, ih done⟩

/-- Whatever a host asks of a settled session, its registry changes by announcements only. -/
theorem Settled.perform_registry {ε : Type} (settled : s.Settled fs) (operation : Operation ε) :
    ∃ calls, (s.perform fs operation).registry = s.registry.announceAll calls := by
  cases operation with
  | loadCorpus =>
      obtain ⟨count, events, loaded⟩ := settled.loadCorpus
      exact ⟨[], by rw [Session.perform, loaded]; rfl⟩
  | beforeFile source =>
      by_cases readable : source.Readable
      · obtain ⟨m, count, documented, registry⟩ := beforeFile_eq (s := s) readable
        exact ⟨source.announcements, by rw [Session.perform, documented, registry]⟩
      · rw [Session.perform, Session.beforeFile]
        rcases collected : DocComments.collect source.visits with ⟨events, answer⟩
        cases answer with
        | error cause => exact ⟨[], rfl⟩
        | ok hooks => exact absurd ⟨hooks, by rw [collected]⟩ readable
  | afterInvocation typeOf call =>
      rcases CallSites.infer_cases typeOf s.registry call with ⟨same, -⟩ | ⟨new, -, -, same⟩
      · exact ⟨[], same⟩
      · exact ⟨[new], same⟩
  | registrationParams suppressed call =>
      obtain ⟨m, parameters, answered, same, -⟩ := settled.registrationParams suppressed call
      exact ⟨[], by rw [Session.perform, answered, same]; rfl⟩

theorem Settled.nodup_names_run {ε : Type} (settled : s.Settled fs)
    (unique : s.registry.names.Nodup) (operations : List (Operation ε)) :
    (s.run (operations.map fun operation => (fs, operation))).registry.names.Nodup := by
  induction operations generalizing s with
  | nil => exact unique
  | cons operation rest ih =>
      apply ih (settled.perform operation)
      obtain ⟨calls, same⟩ := settled.perform_registry operation
      rw [same]
      exact Registry.nodup_names_after unique calls

theorem nodup_names_of_start {data : Path} {settings : Settings} {r : Registry}
    {issues : IssueBuffer} (unique : r.names.Nodup)
    (started : start data settings r issues fs = (s, .ok ())) : s.registry.names.Nodup := by
  rw [start, loadCorpus] at started
  cases found : corpora ⟨data, settings, r, issues, []⟩ fs with
  | error cause => simp [found, Except.map] at started
  | ok documents =>
      simp only [found, Prod.mk.injEq] at started
      obtain ⟨rfl, through⟩ := started
      have fault : (Corpus.loadAll documents r).fault = none := by
        split at through
        · cases through
        · assumption
      show (Corpus.loadAll documents r).registry.names.Nodup
      rw [Corpus.loadAll_registry documents r fault]
      split
      · exact Registry.nodup_names_after unique _
      · exact unique

/-- Sources that have been analysed can be analysed again, and that leaves the registry as it is:
the same names in the same order with the same kinds and the same parameter types. The session
may have been started over any registry and asked anything before. -/
theorem registry_analyzeEach_again {ε : Type} (data : Path) (settings : Settings) (r : Registry)
    (issues : IssueBuffer) (fs : FileSystem) (s t : Session) (operations : List (Operation ε))
    (sources : List Source) (unique : r.names.Nodup)
    (started : start data settings r issues fs = (s, .ok ()))
    (done : analyzeEach fs (s.run (operations.map fun operation => (fs, operation))) sources =
      (t, .ok ())) :
    ∃ again, analyzeEach fs t sources = (again, .ok ()) ∧ again.registry = t.registry := by
  have settled := (settled_of_start started).run operations
  have distinct := (settled_of_start started).nodup_names_run
    (nodup_names_of_start unique started) operations
  have readable := readable_of_analyzeEach done
  obtain ⟨first, analyzed, registry, between⟩ := settled.analyzeEach readable
  obtain rfl : t = first := by
    rw [done, Prod.mk.injEq] at analyzed
    exact analyzed.1
  obtain ⟨again, repeated, same, -⟩ := between.analyzeEach readable
  refine ⟨again, repeated, ?_⟩
  rw [same, registry]
  exact Source.analyzedAll_again distinct sources

def documentedSource (path comment : String) : Source :=
  callSource path [(comment, "do_action", "x")]

/-- One hook with two documentations, the second of which is shorter. -/
def twoDocumentations : List Source :=
  [documentedSource "a.php" "/**@param int $a\n@param bool $b*/",
    documentedSource "b.php" "/**@param string $a*/"]

/-- The second pass takes the first parameter back to `int` and then again to `string`. -/
theorem registry_twoDocumentations :
    ∃ first again, analyzeEach noFiles bare.1 twoDocumentations = (first, .ok ()) ∧
      (first.registry.parameters "x".toList).map UnionType.text =
        ["string".toList, "bool".toList] ∧
      analyzeEach noFiles first twoDocumentations = (again, .ok ()) ∧
      again.registry = first.registry := by
  have started := eq_of_snd_eq_ok (x := bare) (by decide +kernel)
  have done := eq_of_snd_eq_ok (x := analyzeEach noFiles bare.1 twoDocumentations)
    (by decide +kernel)
  have stored : ((analyzeEach noFiles bare.1 twoDocumentations).1.registry.parameters
      "x".toList).map UnionType.text = ["string".toList, "bool".toList] := by
    decide +kernel
  have unique : Registry.empty.names.Nodup := List.nodup_nil
  obtain ⟨again, repeated, same⟩ := registry_analyzeEach_again (ε := Unit) _ _ _ _ _ _ _ []
    twoDocumentations unique started done
  exact ⟨_, again, done, stored, repeated, same⟩

end Session

end PhpHooks
