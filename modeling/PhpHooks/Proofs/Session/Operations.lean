import PhpHooks.Proofs.Corpus.Announcements
import PhpHooks.Session

set_option autoImplicit false

/-!
What a host may ask of a session, and runs of such operations. While the files stay as they are, the
corpora of a session that has started are never loaded a second time.
-/
namespace PhpHooks

namespace Corpus

theorem loadAll_of_filled {r : Registry} (documents : List (Text × Corpus))
    (filled : r.entries ≠ []) : loadAll documents r = ⟨r, 0, [], none⟩ := by
  have test : r.entries.isEmpty = false := by
    simpa using filled
  simp [loadAll, test]

/-- Documents that have been loaded change nothing when they are loaded again: either the registry
is not empty any more, or they hold nothing to load. -/
theorem loadAll_again {r : Registry} {documents : List (Text × Corpus)}
    (through : (loadAll documents r).fault = none) :
    (loadAll documents (loadAll documents r).registry).registry = (loadAll documents r).registry ∧
      (loadAll documents (loadAll documents r).registry).fault = none := by
  by_cases empty : (loadAll documents r).registry.entries = []
  · have before : r.entries = [] := by
      by_cases start : r.entries = []
      · exact start
      · rw [loadAll_of_filled documents start] at empty
        exact empty
    have same : (loadAll documents r).registry = r :=
      congrArg Registry.mk (empty.trans before.symm)
    rw [same, same]
    exact ⟨rfl, through⟩
  · rw [loadAll_of_filled documents empty]
    exact ⟨rfl, rfl⟩

end Corpus

namespace Registration

/-- What a registry has against a call, as a diagnostic at the place of the call. -/
def diagnostics {ε : Type} (r : Registry) (call : Call ε) : List Diagnostic :=
  match judge r call, call.place with
  | some (.error finding), some place => [⟨finding.code, finding.message, place⟩]
  | _, _ => []

theorem report_eq (issues : IssueBuffer) (also : List Text) (d : Diagnostic) :
    issues.report also d =
      { issues with kept := issues.kept ++ [d].filter (issues.accepts also) } := by
  rw [IssueBuffer.report, List.filter_cons, List.filter_nil]
  cases issues.accepts also d with
  | true => simp
  | false => simp

/-- A check keeps what the registry has against the call, unless it is suppressed. -/
theorem check_issues {ε : Type} (r : Registry) (issues : IssueBuffer) (also : List Text)
    (call : Call ε) :
    (check r issues also call).1 =
      { issues with
        kept := issues.kept ++ (diagnostics r call).filter (issues.accepts also) } := by
  rw [check, diagnostics]
  rcases judge r call with _ | (finding | parameters)
  · simp
  · cases place : call.place with
    | none => simp [report, place]
    | some location => simp only [report, place, report_eq]
  · simp

end Registration

/-- What a host asks of a session. -/
inductive Operation (ε : Type) where
  | loadCorpus
  | beforeFile (source : Source)
  | afterInvocation (typeOf : ε → Option UnionType) (call : Call ε)
  | registrationParams (suppressed : List Text) (call : Call ε)

namespace Session

variable {ε : Type}

/-- The session after an operation, whether or not the operation has failed. -/
def perform (fs : FileSystem) (s : Session) : Operation ε → Session
  | .loadCorpus => (s.loadCorpus fs).1
  | .beforeFile source => (s.beforeFile source).1
  | .afterInvocation typeOf call => (s.afterInvocation typeOf call).1
  | .registrationParams suppressed call => (s.registrationParams fs suppressed call).1

/-- The session after operations in order, each with the files as they are at its time. -/
def run (s : Session) (steps : List (FileSystem × Operation ε)) : Session :=
  steps.foldl (fun s step => s.perform step.1 step.2) s

/-- The documents of the session can be found, and loading them again would change nothing. -/
def Settled (fs : FileSystem) (s : Session) : Prop :=
  ∃ documents, s.corpora fs = .ok documents ∧
    (Corpus.loadAll documents s.registry).registry = s.registry ∧
    (Corpus.loadAll documents s.registry).fault = none

section Settled

variable {fs : FileSystem} {s t : Session}

/-- What makes a session settled is where its corpora are and whether its registry is empty. -/
theorem Settled.of_grown (settled : s.Settled fs) (data : t.data = s.data)
    (settings : t.settings = s.settings)
    (grown : t.registry = s.registry ∨ t.registry.entries ≠ []) : t.Settled fs := by
  obtain ⟨documents, found, registry, fault⟩ := settled
  have same : t.corpora fs = .ok documents := by
    rw [← found, corpora, corpora, data, settings]
  rcases grown with kept | filled
  · exact ⟨documents, same, by rw [kept, registry], by rw [kept, fault]⟩
  · have nothing := Corpus.loadAll_of_filled documents filled
    exact ⟨documents, same, by rw [nothing], by rw [nothing]⟩

/-- Loading the corpora of a settled session gives a number and leaves all but the log. -/
theorem Settled.loadCorpus (settled : s.Settled fs) :
    ∃ count events, s.loadCorpus fs = (s.note events, .ok count) := by
  obtain ⟨documents, found, registry, fault⟩ := settled
  refine ⟨(Corpus.loadAll documents s.registry).count,
    (Corpus.loadAll documents s.registry).events, ?_⟩
  rw [Session.loadCorpus, found]
  simp only [registry, fault]

theorem Settled.note (settled : s.Settled fs) (events : List Event) : (s.note events).Settled fs :=
  settled.of_grown rfl rfl (Or.inl rfl)

/-- A check of a registration gives an answer and leaves the registry. -/
theorem Settled.registrationParams (settled : s.Settled fs) (suppressed : List Text)
    (call : Call ε) :
    ∃ m parameters, s.registrationParams fs suppressed call = (m, .ok parameters) ∧
      m.registry = s.registry ∧ m.Settled fs := by
  obtain ⟨count, events, loaded⟩ := settled.loadCorpus
  rw [Session.registrationParams, loaded]
  refine ⟨_, _, rfl, rfl, ?_⟩
  exact settled.of_grown rfl rfl (Or.inl rfl)

theorem entries_register_ne_nil (r : Registry) (name : Text) (kind : HookKind)
    (types : List (Option UnionType)) : (r.register name kind types).1.entries ≠ [] := by
  have stored := Registry.get?_register r name kind types name
  rw [if_pos rfl] at stored
  intro empty
  rw [Registry.get?, empty] at stored
  cases stored

theorem Settled.register (settled : s.Settled fs) (name : Text) (kind : HookKind)
    (types : List UnionType) : (s.register name kind types).Settled fs :=
  settled.of_grown rfl rfl (Or.inr (entries_register_ne_nil _ _ _ _))

theorem Settled.registerAll (settled : s.Settled fs) (hooks : List DocumentedHook) :
    (hooks.foldl (fun s hook => s.register hook.name hook.kind hook.types) s).Settled fs := by
  induction hooks generalizing s with
  | nil => exact settled
  | cons hook rest ih => exact ih (settled.register hook.name hook.kind hook.types)

theorem Settled.beforeFile (settled : s.Settled fs) (source : Source) :
    (s.beforeFile source).1.Settled fs := by
  rw [Session.beforeFile]
  rcases DocComments.collect source.visits with ⟨events, answer⟩
  cases answer with
  | error cause => exact settled.note events
  | ok hooks =>
      have registered := (settled.note events).registerAll hooks
      show (if hooks.isEmpty then _ else _ : Session).Settled fs
      by_cases none : hooks.isEmpty = true
      · rw [if_pos none]
        exact registered
      · rw [if_neg none]
        exact registered.note _

/-- The registry after an inference is the old one or one to which a hook was added. -/
theorem infer_registry (typeOf : ε → Option UnionType) (r : Registry) (call : Call ε) :
    (CallSites.infer typeOf r call).1 = r ∨ (CallSites.infer typeOf r call).1.entries ≠ [] := by
  rw [CallSites.infer]
  cases CallSites.inferred? typeOf r call with
  | none => exact Or.inl rfl
  | some hook => exact Or.inr (entries_register_ne_nil _ _ _ _)

theorem Settled.afterInvocation (settled : s.Settled fs) (typeOf : ε → Option UnionType)
    (call : Call ε) : (s.afterInvocation typeOf call).1.Settled fs :=
  settled.of_grown rfl rfl (infer_registry typeOf s.registry call)

theorem Settled.perform (settled : s.Settled fs) (operation : Operation ε) :
    (s.perform fs operation).Settled fs := by
  cases operation with
  | loadCorpus =>
      obtain ⟨count, events, loaded⟩ := settled.loadCorpus
      rw [Session.perform, loaded]
      exact settled.note events
  | beforeFile source => exact settled.beforeFile source
  | afterInvocation typeOf call => exact settled.afterInvocation typeOf call
  | registrationParams suppressed call =>
      obtain ⟨m, parameters, answered, -, still⟩ := settled.registrationParams suppressed call
      rw [Session.perform, answered]
      exact still

/-- A session stays settled while its files stay as they are. -/
theorem Settled.run (settled : s.Settled fs) (operations : List (Operation ε)) :
    (s.run (operations.map fun operation => (fs, operation))).Settled fs := by
  induction operations generalizing s with
  | nil => exact settled
  | cons operation rest ih => exact ih (settled.perform operation)

/-- A session that has started is settled: corpora that leave an empty registry empty do so
again. -/
theorem settled_of_start {data : Path} {settings : Settings} {r : Registry} {issues : IssueBuffer}
    (started : start data settings r issues fs = (s, .ok ())) : s.Settled fs := by
  rw [start, Session.loadCorpus] at started
  cases found : corpora ⟨data, settings, r, issues, []⟩ fs with
  | error cause => simp [found, Except.map] at started
  | ok documents =>
      simp only [found, Prod.mk.injEq] at started
      obtain ⟨rfl, through⟩ := started
      have fault : (Corpus.loadAll documents r).fault = none := by
        split at through
        · cases through
        · assumption
      exact ⟨documents, found, Corpus.loadAll_again fault⟩

end Settled

end Session
end PhpHooks
