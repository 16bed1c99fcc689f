import PhpHooks.Proofs.Session.ClosedForm

set_option autoImplicit false

/-!
Checks of registrations observe a session and do not steer it, and a suppressed code only filters
what is recorded. Both compare two runs whose sessions agree, before each operation, in the corpora
that they would load and in the registry.
-/
namespace PhpHooks

/-- What a host is told by an operation. -/
inductive Reply where
  | loaded (count : Except RunFault Nat)
  | recovered (count : Except RunFault Nat)
  | inferred (signature : Option Signature)
  | parameters (answer : Except RunFault (Option (List Parameter)))

namespace Operation

variable {ε : Type}

def isCheck : Operation ε → Bool
  | .registrationParams _ _ => true
  | _ => false

/-- The codes that are suppressed for this operation alone. -/
def suppressed : Operation ε → List Text
  | .registrationParams suppressed _ => suppressed
  | _ => []

def unsuppressed : Operation ε → Operation ε
  | .registrationParams _ call => .registrationParams [] call
  | operation => operation

/-- What a registry has against the call that is checked, if one is. -/
def diagnostics (r : Registry) : Operation ε → List Diagnostic
  | .registrationParams _ call => Registration.diagnostics r call
  | _ => []

theorem unsuppressed_unsuppressed (operation : Operation ε) :
    operation.unsuppressed.unsuppressed = operation.unsuppressed := by
  cases operation <;> rfl

theorem diagnostics_unsuppressed (r : Registry) (operation : Operation ε) :
    operation.unsuppressed.diagnostics r = operation.diagnostics r := by
  cases operation <;> rfl

end Operation

namespace Session

variable {ε κ β : Type}

def reply (fs : FileSystem) (s : Session) : Operation ε → Reply
  | .loadCorpus => .loaded (s.loadCorpus fs).2
  | .beforeFile source => .recovered (s.beforeFile source).2
  | .afterInvocation typeOf call => .inferred (s.afterInvocation typeOf call).2
  | .registrationParams suppressed call => .parameters (s.registrationParams fs suppressed call).2

/-- The diagnostics that an operation adds to the recorded ones. -/
def reported (fs : FileSystem) (s : Session) (operation : Operation ε) : List Diagnostic :=
  (s.perform fs operation).issues.kept.drop s.issues.kept.length

/-- The session after operations while the files stay as they are. -/
def runWith (fs : FileSystem) (s : Session) (operations : List (Operation ε)) : Session :=
  s.run (operations.map fun operation => (fs, operation))

/-- What is seen at each of the labelled operations of a history, under the same label. -/
def along (fs : FileSystem) (observe : Session → Operation ε → β) :
    Session → List (κ × Operation ε) → List (κ × β)
  | _, [] => []
  | s, (label, operation) :: rest =>
      (label, observe s operation) :: along fs observe (s.perform fs operation) rest

/-- Two sessions that would load the same corpora and that have the same registry. They may differ
in what they suppress, in what they have recorded and in their logs. -/
structure Alike (fs : FileSystem) (s t : Session) : Prop where
  corpora : s.corpora fs = t.corpora fs
  registry : s.registry = t.registry

section Alike

variable {fs : FileSystem} {s t u : Session}

theorem Alike.trans (first : Alike fs s t) (second : Alike fs t u) : Alike fs s u :=
  ⟨first.corpora.trans second.corpora, first.registry.trans second.registry⟩

theorem Alike.loadCorpus (alike : Alike fs s t) :
    Alike fs (s.loadCorpus fs).1 (t.loadCorpus fs).1 ∧
      (s.loadCorpus fs).2 = (t.loadCorpus fs).2 := by
  rw [Session.loadCorpus, Session.loadCorpus, alike.corpora, alike.registry]
  cases t.corpora fs with
  | error cause => exact ⟨alike, rfl⟩
  | ok documents => exact ⟨⟨alike.corpora, rfl⟩, rfl⟩

theorem Alike.register (alike : Alike fs s t) (name : Text) (kind : HookKind)
    (types : List UnionType) : Alike fs (s.register name kind types) (t.register name kind types) :=
  ⟨alike.corpora,
    congrArg (fun r => (Registry.register r name kind (types.map some)).1) alike.registry⟩

theorem Alike.registerAll (alike : Alike fs s t) (hooks : List DocumentedHook) :
    Alike fs (hooks.foldl (fun s hook => s.register hook.name hook.kind hook.types) s)
      (hooks.foldl (fun s hook => s.register hook.name hook.kind hook.types) t) := by
  induction hooks generalizing s t with
  | nil => exact alike
  | cons hook rest ih => exact ih (alike.register hook.name hook.kind hook.types)

theorem Alike.note (alike : Alike fs s t) (first second : List Event) :
    Alike fs (s.note first) (t.note second) :=
  ⟨alike.corpora, alike.registry⟩

theorem Alike.beforeFile (alike : Alike fs s t) (source : Source) :
    Alike fs (s.beforeFile source).1 (t.beforeFile source).1 ∧
      (s.beforeFile source).2 = (t.beforeFile source).2 := by
  rw [Session.beforeFile, Session.beforeFile]
  rcases DocComments.collect source.visits with ⟨events, answer⟩
  cases answer with
  | error cause => exact ⟨alike.note events events, rfl⟩
  | ok hooks =>
      refine ⟨?_, rfl⟩
      have registered := (alike.note events events).registerAll hooks
      dsimp only
      split
      · exact registered
      · exact registered.note _ _

theorem Alike.afterInvocation (alike : Alike fs s t) (typeOf : ε → Option UnionType)
    (call : Call ε) :
    Alike fs (s.afterInvocation typeOf call).1 (t.afterInvocation typeOf call).1 ∧
      (s.afterInvocation typeOf call).2 = (t.afterInvocation typeOf call).2 := by
  rw [Session.afterInvocation, Session.afterInvocation, alike.registry]
  exact ⟨⟨alike.corpora, rfl⟩, rfl⟩

/-- What is told about a call is what the registry says about it. -/
theorem parameters_check (r : Registry) (first second : IssueBuffer) (also others : List Text)
    (call : Call ε) :
    (Registration.check r first also call).2.1 = (Registration.check r second others call).2.1 := by
  rw [Registration.check, Registration.check]
  rcases Registration.judge r call with _ | (finding | parameters)
  · rfl
  · rfl
  · rfl

theorem Alike.registrationParams (alike : Alike fs s t) (also others : List Text)
    (call : Call ε) :
    Alike fs (s.registrationParams fs also call).1 (t.registrationParams fs others call).1 ∧
      (s.registrationParams fs also call).2 = (t.registrationParams fs others call).2 := by
  have loaded := alike.loadCorpus
  rw [Session.registrationParams, Session.registrationParams]
  generalize s.loadCorpus fs = first, t.loadCorpus fs = second at loaded ⊢
  obtain ⟨m, count⟩ := first
  obtain ⟨n, other⟩ := second
  obtain ⟨after, rfl : count = other⟩ := loaded
  cases count with
  | error cause => exact ⟨after, rfl⟩
  | ok count =>
      have same : m.registry = n.registry := after.registry
      refine ⟨⟨after.corpora, same⟩, ?_⟩
      dsimp only
      rw [same, parameters_check n.registry m.issues n.issues]

/-- Operations that differ only in what they suppress lead from sessions that are alike to sessions
that are alike, and tell the same. -/
theorem Alike.perform (alike : Alike fs s t) {first second : Operation ε}
    (same : first.unsuppressed = second.unsuppressed) :
    Alike fs (s.perform fs first) (t.perform fs second) ∧
      s.reply fs first = t.reply fs second := by
  cases first <;> cases second <;> cases same
  case loadCorpus.loadCorpus =>
    exact ⟨alike.loadCorpus.1, congrArg Reply.loaded alike.loadCorpus.2⟩
  case beforeFile.beforeFile.refl source =>
    exact ⟨(alike.beforeFile source).1, congrArg Reply.recovered (alike.beforeFile source).2⟩
  case afterInvocation.afterInvocation.refl typeOf call =>
    have inferred := alike.afterInvocation typeOf call
    exact ⟨inferred.1, congrArg Reply.inferred inferred.2⟩
  case registrationParams.registrationParams.refl also call others =>
    have checked := alike.registrationParams also others call
    exact ⟨checked.1, congrArg Reply.parameters checked.2⟩

/-- Two replays of a history that differ only in what they suppress have the same registry and are
told the same. -/
theorem Alike.replay (alike : Alike fs s t) {first second : List (κ × Operation ε)}
    (same : first.map (fun entry => (entry.1, entry.2.unsuppressed)) =
      second.map (fun entry => (entry.1, entry.2.unsuppressed))) :
    (s.runWith fs (first.map Prod.snd)).registry = (t.runWith fs (second.map Prod.snd)).registry ∧
      s.along fs (reply fs) first = t.along fs (reply fs) second := by
  induction first generalizing s t second with
  | nil =>
      obtain rfl : second = [] := List.map_eq_nil_iff.mp same.symm
      exact ⟨alike.registry, rfl⟩
  | cons entry rest ih =>
      cases second with
      | nil => cases same
      | cons other others =>
          obtain ⟨label, operation⟩ := entry
          obtain ⟨otherLabel, otherOperation⟩ := other
          simp only [List.map_cons, List.cons.injEq, Prod.mk.injEq] at same
          obtain ⟨⟨rfl, sameOperation⟩, sameRest⟩ := same
          obtain ⟨next, told⟩ := alike.perform sameOperation
          obtain ⟨registry, replies⟩ := ih next sameRest
          refine ⟨registry, ?_⟩
          rw [along, along, told, replies]

end Alike

section Checks

variable {fs : FileSystem} {s t : Session}

/-- In a settled session a check leaves all that a later operation reads. -/
theorem Settled.alike_check (settled : s.Settled fs) {operation : Operation ε}
    (check : operation.isCheck = true) : Alike fs (s.perform fs operation) s := by
  cases operation with
  | registrationParams suppressed call =>
      obtain ⟨count, events, loaded⟩ := settled.loadCorpus
      rw [Session.perform, Session.registrationParams, loaded]
      exact ⟨rfl, rfl⟩
  | loadCorpus => cases check
  | beforeFile source => cases check
  | afterInvocation typeOf call => cases check

/-- Checks can be left out of a history: their replies are then missing, and nothing else
changes. -/
theorem Settled.leave_out (settled : s.Settled fs) (alike : Alike fs s t) {keep : κ → Bool}
    {history : List (κ × Operation ε)}
    (checks : ∀ entry ∈ history, keep entry.1 = false → entry.2.isCheck = true) :
    (s.runWith fs (history.map Prod.snd)).registry =
        (t.runWith fs ((history.filter fun entry => keep entry.1).map Prod.snd)).registry ∧
      (s.along fs (reply fs) history).filter (fun entry => keep entry.1) =
        t.along fs (reply fs) (history.filter fun entry => keep entry.1) := by
  induction history generalizing s t with
  | nil => exact ⟨alike.registry, rfl⟩
  | cons entry rest ih =>
      obtain ⟨label, operation⟩ := entry
      have later : ∀ entry ∈ rest, keep entry.1 = false → entry.2.isCheck = true :=
        fun entry listed => checks entry (List.mem_cons_of_mem _ listed)
      rw [along, List.filter_cons, List.filter_cons]
      cases kept : keep label with
      | true =>
          obtain ⟨next, told⟩ := alike.perform (rfl : operation.unsuppressed = _)
          obtain ⟨registry, replies⟩ := ih (settled.perform operation) next later
          refine ⟨registry, ?_⟩
          rw [if_pos rfl, if_pos rfl, along, told, replies]
      | false =>
          have check := checks (label, operation) List.mem_cons_self kept
          exact ih (settled.perform operation) ((settled.alike_check check).trans alike) later

end Checks

section Suppression

variable {fs : FileSystem} {s t : Session}

theorem issues_loadCorpus (fs : FileSystem) (s : Session) :
    (s.loadCorpus fs).1.issues = s.issues := by
  rw [Session.loadCorpus]
  cases s.corpora fs with
  | error cause => rfl
  | ok documents => rfl

theorem issues_registerAll (s : Session) (hooks : List DocumentedHook) :
    (hooks.foldl (fun s hook => s.register hook.name hook.kind hook.types) s).issues =
      s.issues := by
  induction hooks generalizing s with
  | nil => rfl
  | cons hook rest ih => exact ih (s.register hook.name hook.kind hook.types)

theorem issues_beforeFile (s : Session) (source : Source) :
    (s.beforeFile source).1.issues = s.issues := by
  rw [Session.beforeFile]
  rcases DocComments.collect source.visits with ⟨events, answer⟩
  cases answer with
  | error cause => rfl
  | ok hooks =>
      have registered := issues_registerAll (s.note events) hooks
      dsimp only
      split
      · exact registered
      · exact registered

/-- An operation records what the registry has against the call that it checks, unless that is
suppressed. -/
theorem Settled.issues_perform (settled : s.Settled fs) (operation : Operation ε) :
    (s.perform fs operation).issues =
      { s.issues with
        kept := s.issues.kept ++
          (operation.diagnostics s.registry).filter (s.issues.accepts operation.suppressed) } := by
  cases operation with
  | loadCorpus => simp [Session.perform, issues_loadCorpus, Operation.diagnostics]
  | beforeFile source => simp [Session.perform, issues_beforeFile, Operation.diagnostics]
  | afterInvocation typeOf call =>
      simp [Session.perform, Session.afterInvocation, Session.note, Operation.diagnostics]
  | registrationParams suppressed call =>
      obtain ⟨count, events, loaded⟩ := settled.loadCorpus
      rw [Session.perform, Session.registrationParams, loaded]
      exact Registration.check_issues s.registry s.issues suppressed call

theorem Settled.reported_eq (settled : s.Settled fs) (operation : Operation ε) :
    s.reported fs operation =
      (operation.diagnostics s.registry).filter (s.issues.accepts operation.suppressed) := by
  rw [reported, settled.issues_perform, List.drop_left]

/-- What is recorded is what the operations report, in their order. -/
theorem Settled.kept_along (settled : s.Settled fs) (history : List (κ × Operation ε)) :
    (s.runWith fs (history.map Prod.snd)).issues.kept =
      s.issues.kept ++ (s.along fs (reported fs) history).flatMap Prod.snd := by
  induction history generalizing s with
  | nil => exact (List.append_nil s.issues.kept).symm
  | cons entry rest ih =>
      obtain ⟨label, operation⟩ := entry
      have recorded : (s.perform fs operation).issues.kept =
          s.issues.kept ++ s.reported fs operation := by
        rw [settled.reported_eq, settled.issues_perform]
      rw [along, List.flatMap_cons, ← List.append_assoc, ← recorded]
      exact ih (settled.perform operation)

/-- With nothing suppressed, all that the registry has against a call is reported. -/
theorem Settled.reported_plain (settled : s.Settled fs) (plain : s.issues.suppressed = [])
    (operation : Operation ε) :
    s.reported fs operation.unsuppressed = operation.diagnostics s.registry := by
  rw [settled.reported_eq, Operation.diagnostics_unsuppressed, List.filter_eq_self]
  intro d listed
  cases operation <;>
    simp [IssueBuffer.accepts, plain, Operation.unsuppressed, Operation.suppressed]

/-- Each operation reports what it would report with nothing suppressed, but for the codes that are
suppressed for the session or for the operation. -/
theorem Settled.reports_filtered (settled : s.Settled fs) (other : t.Settled fs)
    (alike : Alike fs s t) (plain : t.issues.suppressed = []) (operations : List (Operation ε)) :
    s.along fs (reported fs)
        (operations.map fun operation => (operation.suppressed, operation)) =
      (t.along fs (reported fs)
        (operations.map fun operation => (operation.suppressed, operation.unsuppressed))).map
          fun entry => (entry.1, entry.2.filter (s.issues.accepts entry.1)) := by
  induction operations generalizing s t with
  | nil => rfl
  | cons operation rest ih =>
      have next := (alike.perform operation.unsuppressed_unsuppressed.symm).1
      have still : (t.perform fs operation.unsuppressed).issues.suppressed = [] := by
        rw [other.issues_perform]
        exact plain
      have later := ih (settled.perform operation) (other.perform operation.unsuppressed) next still
      have accepts : (s.perform fs operation).issues.accepts = s.issues.accepts := by
        rw [settled.issues_perform]
        rfl
      simp only [List.map_cons, along]
      rw [later, accepts, settled.reported_eq, other.reported_plain plain, alike.registry]

end Suppression

theorem issues_of_start {data : Path} {settings : Settings} {r : Registry} {issues : IssueBuffer}
    {fs : FileSystem} {s : Session} (started : start data settings r issues fs = (s, .ok ())) :
    s.issues = issues := by
  obtain rfl : (start data settings r issues fs).1 = s := congrArg Prod.fst started
  exact issues_loadCorpus fs ⟨data, settings, r, issues, []⟩

/-- Whether a session starts, and with which registry, does not depend on what it suppresses. -/
theorem alike_of_start {data : Path} {settings : Settings} {r : Registry} {issues : IssueBuffer}
    {fs : FileSystem} {s : Session} (started : start data settings r issues fs = (s, .ok ()))
    (codes : List Text) (others : IssueBuffer) :
    ∃ t, start data { settings with suppressIssues := codes } r others fs = (t, .ok ()) ∧
      Alike fs s t := by
  have alike : Alike fs ⟨data, settings, r, issues, []⟩
      ⟨data, { settings with suppressIssues := codes }, r, others, []⟩ := ⟨rfl, rfl⟩
  obtain ⟨after, count⟩ := alike.loadCorpus
  have through : (start data settings r issues fs).2 = .ok () := congrArg Prod.snd started
  obtain rfl : (start data settings r issues fs).1 = s := congrArg Prod.fst started
  refine ⟨_, Prod.ext rfl ?_, after⟩
  exact (congrArg (Except.map fun _ => ()) count.symm).trans through

/-- Checks of registrations only observe. Whichever of them are left out of a history, or put into
it, the registry and the replies to the other operations are the same. Suppressed codes only
filter: whatever is suppressed for the session or with an operation, the registry and all replies
are the same, and what is recorded is what a session that suppresses nothing reports, but for
those codes. -/
theorem checks_observe_and_suppression_filters {ε κ : Type} (data : Path) (settings : Settings)
    (r : Registry) (codes : List Text) (fs : FileSystem) (s : Session)
    (started : start data settings r (.ofSuppressed codes) fs = (s, .ok ())) :
    (∀ (history : List (κ × Operation ε)) (keep : κ → Bool),
      (∀ entry ∈ history, keep entry.1 = false → entry.2.isCheck = true) →
      (s.runWith fs (history.map Prod.snd)).registry =
          (s.runWith fs ((history.filter fun entry => keep entry.1).map Prod.snd)).registry ∧
        (s.along fs (reply fs) history).filter (fun entry => keep entry.1) =
          s.along fs (reply fs) (history.filter fun entry => keep entry.1)) ∧
    (∀ (configured others : List Text) (history replayed : List (κ × Operation ε)),
      history.map (fun entry => (entry.1, entry.2.unsuppressed)) =
          replayed.map (fun entry => (entry.1, entry.2.unsuppressed)) →
      ∃ t, start data { settings with suppressIssues := configured } r (.ofSuppressed others) fs =
          (t, .ok ()) ∧
        (s.runWith fs (history.map Prod.snd)).registry =
          (t.runWith fs (replayed.map Prod.snd)).registry ∧
        s.along fs (reply fs) history = t.along fs (reply fs) replayed) ∧
    ∃ plain, start data { settings with suppressIssues := [] } r (.ofSuppressed []) fs =
        (plain, .ok ()) ∧
      ∀ operations : List (Operation ε),
        let reports := plain.along fs (reported fs)
          (operations.map fun operation => (operation.suppressed, operation.unsuppressed))
        (plain.runWith fs (operations.map Operation.unsuppressed)).issues.kept =
            reports.flatMap Prod.snd ∧
          (s.runWith fs operations).issues.kept = reports.flatMap fun entry =>
            entry.2.filter fun d => !codes.contains d.code && !entry.1.contains d.code := by
  have settled := settled_of_start started
  refine ⟨fun history keep checks => settled.leave_out ⟨rfl, rfl⟩ checks, ?_, ?_⟩
  · intro configured others history replayed same
    obtain ⟨t, begun, alike⟩ := alike_of_start started configured (.ofSuppressed others)
    exact ⟨t, begun, alike.replay same⟩
  · obtain ⟨plain, begun, alike⟩ := alike_of_start started [] (.ofSuppressed [])
    have plainSettled := settled_of_start begun
    have nothing : plain.issues = .ofSuppressed [] := issues_of_start begun
    refine ⟨plain, begun, fun operations => ⟨?_, ?_⟩⟩
    · have recorded := plainSettled.kept_along
        (operations.map fun operation => (operation.suppressed, operation.unsuppressed))
      rw [nothing, List.map_map] at recorded
      exact recorded
    · have recorded := settled.kept_along
        (operations.map fun operation => (operation.suppressed, operation))
      rw [settled.reports_filtered plainSettled alike (by rw [nothing]; rfl),
        issues_of_start started, List.map_map, List.flatMap_map] at recorded
      simp only [Function.comp_def, List.map_id'] at recorded
      exact recorded

/-- A call with the hook `x` as its argument. -/
def callAt (line : Int) (function : String) : Call Unit :=
  ⟨some function.toList, [⟨none, [], none, false, some "x".toList, none⟩],
    some ⟨"a.php".toList, line, 1⟩⟩

/-- An action that callbacks are registered for as for a filter, before and after it is invoked. The
call on the third line suppresses what is wrong with it. -/
def filteredAction : List (Nat × Operation Unit) :=
  [(1, .registrationParams [] (callAt 1 "add_filter")),
    (2, .afterInvocation (fun _ => none) (callAt 2 "do_action")),
    (3, .registrationParams ["HookKindMismatch".toList] (callAt 3 "add_filter")),
    (4, .registrationParams [] (callAt 4 "add_filter"))]

/-- A session without corpora that suppresses hooks that are not found. -/
def quiet : Session × Except RunFault Unit :=
  start (Path.ofText []) { Settings.default (Path.ofText []) with useDefaultHooks := false } .empty
    (.ofSuppressed ["HookNotFound".toList]) noFiles

/-- Three of four calls are checks, and two of their three diagnostics are suppressed. -/
theorem kept_filteredAction :
    (quiet.1.along noFiles (reply noFiles) filteredAction).filter (fun entry => entry.1 == 2) =
      quiet.1.along noFiles (reply noFiles)
        [(2, .afterInvocation (fun _ => none) (callAt 2 "do_action"))] ∧
    quiet.1.along noFiles (reply noFiles) filteredAction =
      bare.1.along noFiles (reply noFiles)
        (filteredAction.map fun entry => (entry.1, entry.2.unsuppressed)) ∧
    (bare.1.runWith noFiles
        ((filteredAction.map Prod.snd).map Operation.unsuppressed)).issues.kept.map
          (fun d => (d.code, d.place.line)) =
      [("HookNotFound".toList, 1), ("HookKindMismatch".toList, 3),
        ("HookKindMismatch".toList, 4)] ∧
    (quiet.1.runWith noFiles (filteredAction.map Prod.snd)).issues.kept =
      [⟨"HookKindMismatch".toList, "Hook [x] is an action not a filter".toList,
        ⟨"a.php".toList, 4, 1⟩⟩] := by
  have started : quiet = (quiet.1, .ok ()) := Prod.ext rfl (by decide +kernel)
  have checks : ∀ entry ∈ filteredAction, (entry.1 == 2) = false → entry.2.isCheck = true := by
    simp [filteredAction, Operation.isCheck]
  have same : filteredAction.map (fun entry => (entry.1, entry.2.unsuppressed)) =
      (filteredAction.map fun entry => (entry.1, entry.2.unsuppressed)).map
        fun entry => (entry.1, entry.2.unsuppressed) := rfl
  obtain ⟨observe, replay, plain, begun, filtered⟩ :=
    checks_observe_and_suppression_filters (κ := Nat) _ _ _ _ _ _ started
  obtain ⟨t, again, -, replies⟩ := replay [] [] _ _ same
  obtain rfl : bare.1 = t := congrArg Prod.fst again
  obtain rfl : bare.1 = plain := congrArg Prod.fst begun
  refine ⟨(observe filteredAction (· == 2) checks).2, replies, ?_, ?_⟩
  · rw [(filtered _).1]
    decide +kernel
  · rw [(filtered _).2]
    decide +kernel

end Session
end PhpHooks
