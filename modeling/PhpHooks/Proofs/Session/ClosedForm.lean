import Mathlib.Data.List.Induction
import PhpHooks.Proofs.Session.Operations
import PhpHooks.Proofs.Source.PreOrder

set_option autoImplicit false

/-!
The diagnostics of a whole analysis in closed form. A registration is judged by what was registered
before it: by the corpora, by the files before its own, by the comments of its own file, and by
the calls in front of it.
-/
namespace PhpHooks

section Earlier

variable {α β : Type}

/-- What `f` says about each item of a list, given the items before it. -/
def withEarlier (f : List α → α → List β) (items : List α) : List β :=
  items.zipIdx.flatMap fun (item, i) => f (items.take i) item

theorem withEarlier_cons (f : List α → α → List β) (item : α) (rest : List α) :
    withEarlier f (item :: rest) =
      f [] item ++ withEarlier (fun before => f (item :: before)) rest := by
  rw [withEarlier, List.zipIdx_cons', List.flatMap_cons, List.flatMap_map]
  rfl

end Earlier

def Announcement.hook (announcement : Announcement) : Text × HookKind :=
  (announcement.name, announcement.kind)

/-- The hook that a call invokes by a literal name, with the kind that its function invokes. -/
def Call.invoked {ε : Type} (call : Call ε) : List (Text × HookKind) :=
  match FunctionName.invocation? call.function, call.hook? with
  | some kind, some name => [(name, kind)]
  | _, _ => []

/-- What is wrong with a registration when hooks have been registered as listed, the first
registration of a name first. -/
def Call.finding? {ε : Type} (known : List (Text × HookKind)) (call : Call ε) : Option Finding :=
  match FunctionName.registration? call.function, call.hook? with
  | some expected, some hook =>
      match known.lookup hook with
      | none => some (.unknown hook)
      | some kind =>
          if kind.isAction = expected.isAction then none else some (.mismatch hook expected)
  | _, _ => none

def Call.diagnostics {ε : Type} (known : List (Text × HookKind)) (call : Call ε) :
    List Diagnostic :=
  match call.finding? known, call.place with
  | some finding, some place => [⟨finding.code, finding.message, place⟩]
  | _, _ => []

namespace Source

def documentedHooks (source : Source) : List (Text × HookKind) :=
  match (DocComments.collect source.visits).2 with
  | .ok hooks => hooks.map fun hook => (hook.name, hook.kind)
  | .error _ => []

def hooks (source : Source) : List (Text × HookKind) :=
  source.documentedHooks ++ source.callsInPreorder.flatMap Call.invoked

/-- The diagnostics of a source when hooks have been registered as listed before it. -/
def diagnostics (known : List (Text × HookKind)) (source : Source) : List Diagnostic :=
  withEarlier
    (fun before call =>
      call.diagnostics (known ++ source.documentedHooks ++ before.flatMap Call.invoked))
    source.callsInPreorder

def allDiagnostics (known : List (Text × HookKind)) (sources : List Source) : List Diagnostic :=
  withEarlier (fun before source => source.diagnostics (known ++ before.flatMap hooks)) sources

end Source

namespace Session

def corpusHooks (s : Session) (fs : FileSystem) : List (Text × HookKind) :=
  match s.corpora fs with
  | .ok documents => (Corpus.allAnnouncements documents).map Announcement.hook
  | .error _ => []

def analyzeEach (fs : FileSystem) : Session → List Source → Session × Except RunFault Unit
  | s, [] => (s, .ok ())
  | s, source :: rest =>
      match s.analyze fs source with
      | (s, .error cause) => (s, .error cause)
      | (s, .ok _) => analyzeEach fs s rest

/-- What a part of a run adds: registrations, of which the first of a name counts, and diagnostics,
of which the suppressed ones are dropped. -/
structure Adds (fs : FileSystem) (before after : Session) (hooks : List (Text × HookKind))
    (found : List Diagnostic) : Prop where
  corpus : after.corpusHooks fs = before.corpusHooks fs
  kinds : ∀ name, after.registry.kind? name = (before.registry.kind? name).or (hooks.lookup name)
  suppressed : after.issues.suppressed = before.issues.suppressed
  kept : after.issues.kept =
    before.issues.kept ++ found.filter fun d => !before.issues.suppressed.contains d.code

namespace Adds

variable {fs : FileSystem} {s t u : Session} {first second : List (Text × HookKind)}
  {found more : List Diagnostic}

theorem refl (fs : FileSystem) (s : Session) : Adds fs s s [] [] :=
  ⟨rfl, by simp, rfl, by simp⟩

theorem trans (front : Adds fs s t first found) (back : Adds fs t u second more) :
    Adds fs s u (first ++ second) (found ++ more) where
  corpus := back.corpus.trans front.corpus
  kinds name := by rw [back.kinds, front.kinds, List.lookup_append, Option.or_assoc]
  suppressed := back.suppressed.trans front.suppressed
  kept := by
    rw [back.kept, front.kept, front.suppressed, List.filter_append, List.append_assoc]

end Adds

/-- The registry knows what the corpora and then the listed registrations have registered. -/
def Tracks (fs : FileSystem) (s : Session) (later : List (Text × HookKind)) : Prop :=
  ∀ name, s.registry.kind? name = (s.corpusHooks fs ++ later).lookup name

theorem Tracks.after {fs : FileSystem} {s t : Session} {later hooks : List (Text × HookKind)}
    {found : List Diagnostic} (tracks : s.Tracks fs later) (adds : Adds fs s t hooks found) :
    t.Tracks fs (later ++ hooks) := by
  intro name
  rw [adds.kinds, tracks name, adds.corpus]
  simp only [List.lookup_append, Option.or_assoc]

section Steps

variable {fs : FileSystem} {s t : Session} {later : List (Text × HookKind)}

theorem adds_register (fs : FileSystem) (s : Session) (name : Text) (kind : HookKind)
    (types : List UnionType) : Adds fs s (s.register name kind types) [(name, kind)] [] where
  corpus := rfl
  kinds other := by
    show (s.registry.announce ⟨name, kind, types.map some⟩).kind? other = _
    rw [Registry.kind?_announce, Registry.lookup_cons_ite, List.lookup_nil]
  suppressed := rfl
  kept := by simp [register, note]

theorem adds_note (fs : FileSystem) (s : Session) (events : List Event) :
    Adds fs s (s.note events) [] [] :=
  ⟨rfl, by simp [note], rfl, by simp [note]⟩

theorem adds_registerAll (fs : FileSystem) (s : Session) (hooks : List DocumentedHook) :
    Adds fs s (hooks.foldl (fun s hook => s.register hook.name hook.kind hook.types) s)
      (hooks.map fun hook => (hook.name, hook.kind)) [] := by
  induction hooks generalizing s with
  | nil => exact Adds.refl fs s
  | cons hook rest ih =>
      have front := adds_register fs s hook.name hook.kind hook.types
      exact front.trans (ih (s.register hook.name hook.kind hook.types))

/-- Before the calls of a file come the hooks that it documents. -/
theorem adds_beforeFile {source : Source} {count : Nat}
    (done : s.beforeFile source = (t, .ok count)) : Adds fs s t source.documentedHooks [] := by
  rw [beforeFile] at done
  rw [Source.documentedHooks]
  rcases collected : DocComments.collect source.visits with ⟨events, answer⟩
  rw [collected] at done
  cases answer with
  | error cause => simp at done
  | ok hooks =>
      simp only [Prod.mk.injEq] at done
      obtain ⟨rfl, -⟩ := done
      have registered := (adds_note fs s events).trans (adds_registerAll fs _ hooks)
      split
      · exact registered
      · have noted := registered.trans (adds_note fs _ [.recovered hooks.length source.path])
        simpa using noted

/-- An invocation registers its hook; if the hook is known already, its first registration
counts. -/
theorem kind?_infer {ε : Type} (typeOf : ε → Option UnionType) (r : Registry) (call : Call ε)
    (other : Text) : (CallSites.infer typeOf r call).1.kind? other =
      (r.kind? other).or (call.invoked.lookup other) := by
  rw [Call.invoked, CallSites.infer, CallSites.inferred?]
  cases FunctionName.invocation? call.function with
  | none => simp
  | some kind =>
      cases call.hook? with
      | none => simp
      | some name =>
          simp only [Registry.lookup_cons_ite, List.lookup_nil]
          cases known : r.contains name with
          | true =>
              obtain ⟨signature, stored⟩ := Option.isSome_iff_exists.mp known
              by_cases same : other = name
              · simp [same, Registry.kind?, stored]
              · simp [same]
          | false =>
              let types := (call.arguments.drop 1).map (CallSites.argumentType typeOf)
              exact Registry.kind?_announce r ⟨name, kind, types.map some⟩ other

theorem adds_afterInvocation {ε : Type} (fs : FileSystem) (s : Session)
    (typeOf : ε → Option UnionType) (call : Call ε) :
    Adds fs s (s.afterInvocation typeOf call).1 call.invoked [] :=
  ⟨rfl, kind?_infer typeOf s.registry call, rfl, by simp [afterInvocation, note]⟩

/-- Corpora that have left the registry empty hold no hook. -/
theorem Tracks.no_corpus {documents : List (Text × Corpus)} (tracks : s.Tracks fs later)
    (found : s.corpora fs = .ok documents) (empty : s.registry.entries.isEmpty = true) :
    Corpus.allAnnouncements documents = [] := by
  cases held : Corpus.allAnnouncements documents with
  | nil => rfl
  | cons announcement rest =>
      have stored := tracks announcement.name
      have none : s.registry.kind? announcement.name = none := by
        rw [Registry.kind?, Registry.get?, List.isEmpty_iff.mp empty]
        rfl
      simp [none, corpusHooks, found, held, Announcement.hook] at stored

/-- Loading the corpora again changes nothing: they are loaded into an empty registry only, and one
that is empty after they were loaded shows that they hold nothing. -/
theorem loadCorpus_eq {count : Nat} (tracks : s.Tracks fs later)
    (loaded : s.loadCorpus fs = (t, .ok count)) :
    t.registry = s.registry ∧ t.issues = s.issues ∧ t.corpusHooks fs = s.corpusHooks fs := by
  rw [loadCorpus] at loaded
  cases found : s.corpora fs with
  | error cause => simp [found] at loaded
  | ok documents =>
      simp only [found, Prod.mk.injEq] at loaded
      obtain ⟨rfl, through⟩ := loaded
      refine ⟨?_, rfl, rfl⟩
      show (Corpus.loadAll documents s.registry).registry = s.registry
      have faultless : (Corpus.loadAll documents s.registry).fault = none := by
        split at through
        · cases through
        · assumption
      rw [Corpus.loadAll_registry _ _ faultless]
      split
      · next empty =>
          rw [tracks.no_corpus found empty, Registry.announceAll_nil]
      · rfl

/-- What a registry has against a call depends on the kinds that it knows only. -/
theorem diagnostics_eq {ε : Type} {r : Registry} {known : List (Text × HookKind)}
    (kinds : ∀ name, r.kind? name = known.lookup name) (call : Call ε) :
    call.diagnostics known = Registration.diagnostics r call := by
  rw [Call.diagnostics, Call.finding?, Registration.diagnostics, Registration.judge]
  cases FunctionName.registration? call.function with
  | none => rfl
  | some expected =>
      cases call.hook? with
      | none => rfl
      | some hook =>
          have stored := kinds hook
          rw [Registry.kind?] at stored
          simp only [← stored]
          cases r.get? hook with
          | none => cases call.place <;> rfl
          | some signature =>
              by_cases same : signature.kind.isAction = expected.isAction
              · simp [HookKind.satisfies, same]
              · simp only [HookKind.satisfies, same, Option.map_some, beq_iff_eq, if_false]
                cases call.place <;> rfl

theorem accepts_nil (issues : IssueBuffer) :
    issues.accepts [] = fun d => !issues.suppressed.contains d.code := by
  funext d
  simp [IssueBuffer.accepts]

theorem adds_registrationParams {ε : Type} {call : Call ε} {parameters : Option (List Parameter)}
    (tracks : s.Tracks fs later)
    (done : s.registrationParams fs [] call = (t, .ok parameters)) :
    Adds fs s t [] (call.diagnostics (s.corpusHooks fs ++ later)) := by
  rw [registrationParams] at done
  rcases loaded : s.loadCorpus fs with ⟨m, answer⟩
  rw [loaded] at done
  cases answer with
  | error cause => simp at done
  | ok count =>
      obtain ⟨registry, issues, corpus⟩ := loadCorpus_eq tracks loaded
      simp only [Prod.mk.injEq] at done
      obtain ⟨rfl, -⟩ := done
      have checked := Registration.check_issues m.registry m.issues [] call
      rw [accepts_nil, registry, ← diagnostics_eq tracks, issues] at checked
      refine ⟨corpus, ?_, ?_, ?_⟩
      · intro name
        rw [List.lookup_nil, Option.or_none, ← registry]
        rfl
      · show (Registration.check m.registry m.issues [] call).1.suppressed = _
        rw [registry, issues, checked]
      · show (Registration.check m.registry m.issues [] call).1.kept = _
        rw [registry, issues, checked]

end Steps

/-- No function both invokes a hook and registers callbacks. -/
theorem registration?_of_invocation? {name : Option Text}
    (invokes : (FunctionName.invocation? name).isSome = true) :
    FunctionName.registration? name = none := by
  cases name with
  | none => rfl
  | some t =>
      have apart : ∀ entry ∈ FunctionName.invocations,
          FunctionName.registrations.lookup entry.1 = none := by
        decide
      obtain ⟨kind, found⟩ := Option.isSome_iff_exists.mp invokes
      obtain ⟨before, behind, listed, -⟩ := List.lookup_eq_some_iff.mp found
      exact apart (FunctionName.normalize t, kind) (by rw [listed]; simp)

theorem diagnostics_eq_nil {ε : Type} {call : Call ε} (known : List (Text × HookKind))
    (other : FunctionName.registration? call.function = none) : call.diagnostics known = [] := by
  simp [Call.diagnostics, Call.finding?, other]

theorem invoked_eq_nil {ε : Type} {call : Call ε}
    (other : FunctionName.invocation? call.function = none) : call.invoked = [] := by
  simp [Call.invoked, other]

section Runs

variable {fs : FileSystem} {s t : Session} {later : List (Text × HookKind)}

/-- A call adds the hook that it invokes, or the diagnostic of the registration that it is. -/
theorem adds_call {source : Source} {call : Call Node} {rest : List (Call Node)}
    (tracks : s.Tracks fs later) (done : followCalls fs source s (call :: rest) = (t, .ok ())) :
    ∃ m, Adds fs s m call.invoked (call.diagnostics (s.corpusHooks fs ++ later)) ∧
      followCalls fs source m rest = (t, .ok ()) := by
  rw [followCalls] at done
  split at done
  · next invokes =>
      rw [diagnostics_eq_nil _ (registration?_of_invocation? invokes)]
      exact ⟨_, adds_afterInvocation fs s source.evidentType? call, done⟩
  · next other =>
      rw [invoked_eq_nil (Option.not_isSome_iff_eq_none.mp other)]
      split at done
      · rcases checked : s.registrationParams fs [] call with ⟨m, answer⟩
        rw [checked] at done
        cases answer with
        | error cause => simp at done
        | ok parameters => exact ⟨m, adds_registrationParams tracks checked, done⟩
      · next neither =>
          rw [diagnostics_eq_nil _ (Option.not_isSome_iff_eq_none.mp neither)]
          exact ⟨s, Adds.refl fs s, done⟩

/-- Following calls judges each registration by what the calls before it have added. -/
theorem adds_followCalls {source : Source} {calls : List (Call Node)} (tracks : s.Tracks fs later)
    (done : followCalls fs source s calls = (t, .ok ())) :
    Adds fs s t (calls.flatMap Call.invoked)
      (withEarlier
        (fun before call =>
          call.diagnostics (s.corpusHooks fs ++ later ++ before.flatMap Call.invoked)) calls) := by
  induction calls generalizing s later with
  | nil =>
      rw [followCalls, Prod.mk.injEq] at done
      rw [← done.1]
      exact Adds.refl fs s
  | cons call rest ih =>
      obtain ⟨m, step, followed⟩ := adds_call tracks done
      have onward := step.trans (ih (tracks.after step) followed)
      rw [List.flatMap_cons, withEarlier_cons]
      simpa only [step.corpus, List.flatMap_nil, List.append_nil, List.flatMap_cons,
        List.append_assoc] using onward

/-- An analysis adds the hooks and the diagnostics of the source. -/
theorem adds_analyze {source : Source} (tracks : s.Tracks fs later)
    (done : s.analyze fs source = (t, .ok ())) :
    Adds fs s t source.hooks (source.diagnostics (s.corpusHooks fs ++ later)) := by
  rw [analyze] at done
  rcases documented : s.beforeFile source with ⟨m, answer⟩
  rw [documented] at done
  cases answer with
  | error cause => simp at done
  | ok count =>
      have front : Adds fs s m source.documentedHooks [] := adds_beforeFile documented
      have back := adds_followCalls (tracks.after front) done
      have whole := front.trans back
      rw [Source.calls_eq, front.corpus] at whole
      simpa only [Source.hooks, Source.diagnostics, List.append_assoc, List.nil_append] using whole

theorem adds_analyzeEach {sources : List Source} (tracks : s.Tracks fs later)
    (done : analyzeEach fs s sources = (t, .ok ())) :
    Adds fs s t (sources.flatMap Source.hooks)
      (Source.allDiagnostics (s.corpusHooks fs ++ later) sources) := by
  induction sources generalizing s later with
  | nil =>
      rw [analyzeEach, Prod.mk.injEq] at done
      rw [← done.1]
      exact Adds.refl fs s
  | cons source rest ih =>
      rw [analyzeEach] at done
      rcases analyzed : s.analyze fs source with ⟨m, answer⟩
      rw [analyzed] at done
      cases answer with
      | error cause => simp at done
      | ok _ =>
          have step := adds_analyze tracks analyzed
          have onward := step.trans (ih (tracks.after step) done)
          rw [List.flatMap_cons, Source.allDiagnostics, withEarlier_cons]
          simpa only [Source.allDiagnostics, step.corpus, List.flatMap_nil, List.append_nil,
            List.flatMap_cons, List.append_assoc] using onward

end Runs

theorem lookup_hooks (announcements : List Announcement) (name : Text) :
    (announcements.map Announcement.hook).lookup name =
      (announcements.find? fun announcement => announcement.name == name).map
        Announcement.kind := by
  induction announcements with
  | nil => rfl
  | cons announcement rest ih =>
      rw [List.map_cons, Announcement.hook, Registry.lookup_cons_ite, ih, List.find?_cons]
      by_cases same : name = announcement.name
      · simp [same]
      · have test : (announcement.name == name) = false := beq_eq_false_iff_ne.mpr (Ne.symm same)
        simp only [same, test, ↓reduceIte]

/-- A session that has started on an empty registry knows what its corpora have registered. -/
theorem tracks_start {data : Path} {settings : Settings} {issues : IssueBuffer} {fs : FileSystem}
    {s : Session} (started : start data settings .empty issues fs = (s, .ok ())) :
    s.Tracks fs [] ∧ s.issues = issues := by
  rw [start, loadCorpus] at started
  cases found : corpora ⟨data, settings, .empty, issues, []⟩ fs with
  | error cause => simp [found, Except.map] at started
  | ok documents =>
      simp only [found, Prod.mk.injEq] at started
      obtain ⟨rfl, through⟩ := started
      have faultless : (Corpus.loadAll documents .empty).fault = none := by
        split at through
        · cases through
        · assumption
      refine ⟨?_, rfl⟩
      intro name
      show (Corpus.loadAll documents .empty).registry.kind? name =
        (corpusHooks ⟨data, settings, .empty, issues, []⟩ fs ++ []).lookup name
      rw [Corpus.loadAll_registry _ _ faultless, List.append_nil, corpusHooks, found]
      simp only [lookup_hooks]
      exact Registry.kind?_announceAll .empty (Corpus.allAnnouncements documents) name

/-- The diagnostics that a session keeps are those of the sources in order, without the suppressed
ones: a registration of a hook that nothing has registered before it, or whose first registration
is of the other family. -/
theorem kept_eq_allDiagnostics (data : Path) (settings : Settings) (codes : List Text)
    (fs : FileSystem) (s t : Session) (sources : List Source)
    (started : start data settings .empty (.ofSuppressed codes) fs = (s, .ok ()))
    (done : analyzeEach fs s sources = (t, .ok ())) :
    t.issues.kept =
      (Source.allDiagnostics (s.corpusHooks fs) sources).filter fun d =>
        !codes.contains d.code := by
  obtain ⟨tracks, fresh⟩ := tracks_start started
  have adds := adds_analyzeEach tracks done
  have kept := adds.kept
  rw [fresh, List.append_nil] at kept
  exact kept

section Example

/-- The tree of a call `name('hook')` that begins at a byte. -/
def callTree (start : Nat) (name hook : String) : Node :=
  let bracket := start + name.length
  let string : Node :=
    ⟨"string".toList, bracket + 1, bracket + 3 + hook.length, true, none, []⟩
  let argument : Node :=
    ⟨"argument".toList, string.start, string.stop, true, none, [string]⟩
  let arguments : Node :=
    ⟨"arguments".toList, bracket, string.stop + 1, true, some "arguments".toList, [argument]⟩
  ⟨"function_call_expression".toList, start, arguments.stop, true, none,
    [⟨"name".toList, start, bracket, true, some "function".toList, []⟩, arguments]⟩

/-- The nodes of calls that follow one another from a byte on, each behind its comment. -/
def callNodes : Nat → List (String × String × String) → List Node
  | _, [] => []
  | start, (comment, name, hook) :: rest =>
      let call := callTree (start + comment.length) name hook
      let comments : List Node :=
        if comment.isEmpty then []
        else [⟨"comment".toList, start, call.start, true, none, []⟩]
      comments ++ call :: callNodes (call.stop + 1) rest

/-- A source that consists of calls, each given by its comment, its function and its hook. -/
def callSource (path : String) (calls : List (String × String × String)) : Source :=
  let text := String.join
    (calls.map fun (comment, name, hook) => comment ++ name ++ "('" ++ hook ++ "');")
  ⟨path.toList, text.toList.map fun c => c.toNat.toUInt8,
    ⟨"program".toList, 0, text.length, true, none, callNodes 0 calls⟩⟩

/-- Callbacks for a hook that is documented further down, for one that the corpus has, and for one
before and after it is invoked. -/
def twoSources : List Source :=
  [callSource "a.php" [("", "add_filter", "x"), ("/**@param int $p*/", "do_action", "x"),
      ("", "add_filter", "z"), ("", "add_action", "y"), ("", "do_action", "y")],
    callSource "b.php" [("", "ADD_FILTER", "y"), ("", "add_action", "y")]]

def noFiles : FileSystem := ⟨.folder [], [], []⟩

/-- A file with a corpus of one action. -/
def corpusFile : FileSystem :=
  let text := "\x7b\"hooks\":[\x7b\"name\":\"z\",\"type\":\"action\"\x7d]\x7d"
  let bytes := text.toList.map fun c => c.toNat.toUInt8
  ⟨.folder [("z.json".toList, .file ⟨bytes, none⟩)], [], []⟩

/-- A session without corpora and without suppressed codes. -/
def bare : Session × Except RunFault Unit :=
  start (Path.ofText []) { Settings.default (Path.ofText []) with useDefaultHooks := false } .empty
    (.ofSuppressed []) noFiles

def informed : Session × Except RunFault Unit :=
  start (Path.ofText [])
    { Settings.default (Path.ofText []) with
      useDefaultHooks := false
      hooks := [.file (Path.ofText "/z.json".toList)] }
    .empty (.ofSuppressed []) corpusFile

/-- What the two sources give: `x` and `z` are known as actions, by documentation and from the
corpus; `y` is not known before it is invoked, and in the second file it is known as an action. -/
def twoSourcesDiagnostics : List Diagnostic :=
  [⟨"HookKindMismatch".toList, "Hook [x] is an action not a filter".toList,
      ⟨"a.php".toList, 1, 1⟩⟩,
    ⟨"HookKindMismatch".toList, "Hook [z] is an action not a filter".toList,
      ⟨"a.php".toList, 1, 50⟩⟩,
    ⟨"HookNotFound".toList, "Hook [y] not found".toList, ⟨"a.php".toList, 1, 66⟩⟩,
    ⟨"HookKindMismatch".toList, "Hook [y] is an action not a filter".toList,
      ⟨"b.php".toList, 1, 1⟩⟩]

theorem eq_of_snd_eq_ok {x : Session × Except RunFault Unit} (ok : x.2 = .ok ()) :
    x = (x.1, .ok ()) := by
  rw [← ok]

theorem kept_twoSources :
    (analyzeEach corpusFile informed.1 twoSources).1.issues.kept = twoSourcesDiagnostics := by
  have started := eq_of_snd_eq_ok (x := informed) (by decide +kernel)
  have done := eq_of_snd_eq_ok (x := analyzeEach corpusFile informed.1 twoSources)
    (by decide +kernel)
  have listed : (Source.allDiagnostics (informed.1.corpusHooks corpusFile) twoSources).filter
      (fun d => !([] : List Text).contains d.code) = twoSourcesDiagnostics := by
    decide +kernel
  rw [← listed]
  exact kept_eq_allDiagnostics _ _ _ _ _ _ _ started done

end Example

end Session

end PhpHooks
