import PhpHooks.Proofs.Session.ClosedForm
import PhpHooks.Proofs.Session.Operations
import PhpHooks.Proofs.TypeExpr.WellFormed

set_option autoImplicit false

/-!
The types that a session stores. A type reaches the registry on three ways only: it is read from a
documented text, it is the widened answer of a host about an argument, or it stands for a type
that is not known. What holds of all these holds of every stored type after any operations.
-/
namespace PhpHooks

/-- Every parameter type in the registry is of the kind `P`. -/
def Registry.Holds (P : UnionType → Prop) (r : Registry) : Prop :=
  ∀ entry ∈ r.entries, ∀ u ∈ entry.2.parameters, P u

/-- The kind `P` takes in the types that documented texts give, and the type that stands for any. -/
structure Admits (P : UnionType → Prop) : Prop where
  usable : ∀ t u, TypeReading.ofText t = .usable u → P u
  mixed : P UnionType.mixed

/-- Every answer about an expression that comes with the operation is of the kind `P`. -/
def Operation.Answers {ε : Type} (P : UnionType → Prop) : Operation ε → Prop
  | .afterInvocation typeOf _ => ∀ expression u, typeOf expression = some u → P u
  | _ => True

namespace Registry

variable {P : UnionType → Prop} {r : Registry}

theorem mem_put {name : Text} {signature : Signature} {entries : List (Text × Signature)}
    {entry : Text × Signature} (inside : entry ∈ put name signature entries) :
    entry = (name, signature) ∨ entry ∈ entries := by
  induction entries with
  | nil => exact Or.inl (List.mem_singleton.mp inside)
  | cons first rest ih =>
      obtain ⟨other, stored⟩ := first
      rw [put] at inside
      split at inside
      · rcases List.mem_cons.mp inside with here | later
        · exact Or.inl here
        · exact Or.inr (List.mem_cons_of_mem _ later)
      · rcases List.mem_cons.mp inside with here | later
        · exact Or.inr (here ▸ List.mem_cons_self)
        · exact (ih later).imp_right (List.mem_cons_of_mem _)

theorem mem_of_get? {name : Text} {signature : Signature} (found : r.get? name = some signature) :
    (name, signature) ∈ r.entries := by
  obtain ⟨before, behind, split, -⟩ := List.lookup_eq_some_iff.mp found
  rw [split]
  exact List.mem_append_right _ List.mem_cons_self

/-- The merged signature has the supplied types and of the stored ones what they leave over. -/
theorem Holds.merged (held : r.Holds P) (name : Text) (kind : HookKind)
    {supplied : List UnionType} (each : ∀ u ∈ supplied, P u) :
    ∀ u ∈ (r.merged name kind supplied).parameters, P u := by
  rw [Registry.merged]
  cases stored : r.get? name with
  | none => exact each
  | some signature =>
      intro u inside
      rcases List.mem_append.mp inside with new | old
      · exact each u new
      · exact held _ (mem_of_get? stored) u (List.mem_of_mem_drop old)

theorem Holds.register (held : r.Holds P) (name : Text) (kind : HookKind)
    {types : List UnionType} (each : ∀ u ∈ types, P u) :
    (r.register name kind (types.map some)).1.Holds P := by
  have supplied : (types.map some).filterMap id = types := by simp
  intro entry inside
  rw [Registry.register, supplied] at inside
  rcases mem_put inside with rfl | old
  · exact held.merged name kind each
  · exact held entry old

end Registry

section Discovery

variable {P : UnionType → Prop} {r : Registry}

theorem Corpus.readTypes_holds (admits : Admits P) {texts : List Text} {events : List Event}
    {types : List UnionType} (read : readTypes texts = (events, .ok types)) : ∀ u ∈ types, P u := by
  induction texts generalizing events types with
  | nil =>
      simp only [readTypes, Prod.mk.injEq, Except.ok.injEq] at read
      simp [← read.2]
  | cons t rest ih =>
      rw [readTypes] at read
      rcases later : readTypes rest with ⟨others, answer⟩
      cases reading : TypeReading.ofText (some t) with
      | failed cause => simp [reading] at read
      | nothing => exact ih (by simpa [reading] using read)
      | dropped cause =>
          simp only [reading, later, Prod.mk.injEq] at read
          exact ih (later.trans (by rw [read.2]))
      | usable u =>
          simp only [reading, later, Prod.mk.injEq] at read
          cases answer with
          | error cause => cases read.2
          | ok known =>
              rw [← Except.ok.inj read.2]
              exact List.forall_mem_cons.mpr ⟨admits.usable (some t) u reading, ih later⟩

theorem Corpus.registerNames_holds {types : List UnionType} (each : ∀ u ∈ types, P u)
    (kind : HookKind) (names : List Text) (held : r.Holds P) :
    (registerNames kind types names r).1.Holds P := by
  induction names generalizing r with
  | nil => exact held
  | cons name rest ih => exact ih (held.register name kind each)

theorem Corpus.loadEntries_holds (admits : Admits P) (source : Text)
    (entries : List (Option Descriptor)) (held : r.Holds P) :
    (loadEntries source entries r).registry.Holds P := by
  induction entries generalizing r with
  | nil => exact held
  | cons entry rest ih =>
      cases entry with
      | none => exact ih held
      | some d =>
          rw [loadEntries]
          rcases read : readTypes d.expressions with ⟨events, answer⟩
          cases answer with
          | error cause => exact held
          | ok types =>
              have each := readTypes_holds admits read
              simp only
              split
              · exact ih (registerNames_holds each d.kind _ held)
              · exact ih held

theorem Corpus.loadEach_holds (admits : Admits P) (documents : List (Text × Corpus))
    (held : r.Holds P) : (loadEach documents r).registry.Holds P := by
  induction documents generalizing r with
  | nil => exact held
  | cons document rest ih =>
      obtain ⟨source, corpus⟩ := document
      have first : (corpus.load source r).registry.Holds P := by
        cases corpus with
        | entries descriptors => exact loadEntries_holds admits source descriptors held
        | unreadable cause => exact held
        | failed cause => exact held
        | withoutHooks => exact held
      rw [loadEach]
      split
      · exact first
      · exact ih first

theorem Corpus.loadAll_holds (admits : Admits P) (documents : List (Text × Corpus))
    (held : r.Holds P) : (loadAll documents r).registry.Holds P := by
  rw [loadAll]
  split
  · have loaded := loadEach_holds admits (distinctSources documents) held
    simp only
    split
    · exact loaded
    · exact loaded
  · exact held

namespace DocComments

theorem paramTypes_holds (admits : Admits P) {params : List ParamTag} {events : List Event}
    {types : List UnionType} (read : paramTypes params = (events, .ok types)) :
    ∀ u ∈ types, P u := by
  induction params generalizing events types with
  | nil =>
      simp only [paramTypes, Prod.mk.injEq, Except.ok.injEq] at read
      simp [← read.2]
  | cons param rest ih =>
      rw [paramTypes] at read
      rcases later : paramTypes rest with ⟨others, answer⟩
      have prepended : ∀ u, P u → answer.map (u :: ·) = .ok types → ∀ v ∈ types, P v := by
        intro u known same
        cases answer with
        | error cause => cases same
        | ok tail =>
            rw [← Except.ok.inj same]
            exact List.forall_mem_cons.mpr ⟨known, ih later⟩
      cases reading : TypeReading.ofText (paramText param) with
      | failed cause => simp [reading] at read
      | nothing =>
          simp only [reading, later, Prod.mk.injEq] at read
          exact prepended _ admits.mixed read.2
      | dropped cause =>
          simp only [reading, later, Prod.mk.injEq] at read
          exact prepended _ admits.mixed read.2
      | usable u =>
          simp only [reading, later, Prod.mk.injEq] at read
          exact prepended _ (admits.usable _ u reading) read.2

theorem examine_holds (admits : Admits P) {ε : Type} {call : Call ε} {doc : Text}
    {events : List Event} {hook : DocumentedHook}
    (examined : examine call doc = (events, .ok (some hook))) :
    ∀ u ∈ hook.types, P u := by
  rw [examine] at examined
  split at examined
  · split at examined
    · simp at examined
    · next block _ =>
        rcases read : paramTypes block.params with ⟨noted, answer⟩
        rw [read] at examined
        cases answer with
        | error cause => simp at examined
        | ok types =>
            cases types with
            | nil => simp at examined
            | cons first rest =>
                simp only [Prod.mk.injEq, Except.ok.injEq, Option.some.injEq] at examined
                rw [← examined.2]
                exact paramTypes_holds admits read
  · simp at examined

theorem mem_put {hook other : DocumentedHook} {hooks : List DocumentedHook}
    (inside : other ∈ put hook hooks) : other = hook ∨ other ∈ hooks := by
  induction hooks with
  | nil => exact Or.inl (List.mem_singleton.mp inside)
  | cons first rest ih =>
      rw [put] at inside
      split at inside
      · rcases List.mem_cons.mp inside with here | later
        · exact Or.inl here
        · exact Or.inr (List.mem_cons_of_mem _ later)
      · rcases List.mem_cons.mp inside with here | later
        · exact Or.inr (here ▸ List.mem_cons_self)
        · exact (ih later).imp_right (List.mem_cons_of_mem _)

theorem step_holds (admits : Admits P) {ε : Type} {s : State} (visit : Visit ε)
    (held : ∀ hook ∈ s.hooks, ∀ u ∈ hook.types, P u) :
    ∀ hook ∈ (step s visit).1.hooks, ∀ u ∈ hook.types, P u := by
  rw [step]
  split
  · next doc call _ _ _ =>
      rcases examined : examine call doc with ⟨events, answer⟩
      rcases answer with cause | _ | hook
      · exact held
      · exact held
      · intro other inside
        rcases mem_put inside with rfl | old
        · exact examine_holds admits examined
        · exact held other old
  · exact held

theorem collectFrom_holds (admits : Admits P) {ε : Type} {s : State} {visits : List (Visit ε)}
    {events : List Event} {hooks : List DocumentedHook}
    (held : ∀ hook ∈ s.hooks, ∀ u ∈ hook.types, P u)
    (collected : collectFrom s visits = (events, .ok hooks)) :
    ∀ hook ∈ hooks, ∀ u ∈ hook.types, P u := by
  induction visits generalizing s events with
  | nil =>
      simp only [collectFrom, Prod.mk.injEq, Except.ok.injEq] at collected
      rw [← collected.2]
      exact held
  | cons visit rest ih =>
      rw [collectFrom] at collected
      have next := step_holds admits visit held
      rcases stepped : step s visit with ⟨after, noted, fault⟩
      rw [stepped] at collected next
      cases fault with
      | some cause => simp at collected
      | none =>
          rcases later : collectFrom after rest with ⟨others, answer⟩
          simp only [later, Prod.mk.injEq] at collected
          exact ih next (later.trans (by rw [collected.2]))

end DocComments

namespace Session

variable {ε : Type} {fs : FileSystem} {s : Session}

theorem loadCorpus_holds (admits : Admits P) (held : s.registry.Holds P) :
    (s.loadCorpus fs).1.registry.Holds P := by
  rw [loadCorpus]
  split
  · exact held
  · exact Corpus.loadAll_holds admits _ held

theorem registerAll_holds {hooks : List DocumentedHook}
    (each : ∀ hook ∈ hooks, ∀ u ∈ hook.types, P u) (held : s.registry.Holds P) :
    (hooks.foldl (fun s hook => s.register hook.name hook.kind hook.types)
      s).registry.Holds P := by
  induction hooks generalizing s with
  | nil => exact held
  | cons hook rest ih =>
      rw [List.forall_mem_cons] at each
      exact ih each.2 (held.register hook.name hook.kind each.1)

theorem beforeFile_holds (admits : Admits P) (source : Source) (held : s.registry.Holds P) :
    (s.beforeFile source).1.registry.Holds P := by
  rw [beforeFile]
  rcases collected : DocComments.collect source.visits with ⟨events, answer⟩
  cases answer with
  | error cause => exact held
  | ok hooks =>
      have each := DocComments.collectFrom_holds admits (by simp [DocComments.State.initial])
        collected
      have after := registerAll_holds (s := s.note events) each held
      simp only
      split
      · exact after
      · exact after

theorem afterInvocation_holds (admits : Admits P) {typeOf : ε → Option UnionType}
    (call : Call ε) (provided : ∀ expression u, typeOf expression = some u → P u.widen)
    (held : s.registry.Holds P) : (s.afterInvocation typeOf call).1.registry.Holds P := by
  have each : ∀ argument, P (CallSites.argumentType typeOf argument) := by
    intro argument
    rw [CallSites.argumentType]
    split
    · next u answered =>
        obtain ⟨expression, -, known⟩ := Option.bind_eq_some_iff.mp answered
        exact provided expression u known
    · exact admits.mixed
  show (CallSites.infer typeOf s.registry call).1.Holds P
  rw [CallSites.infer, CallSites.inferred?]
  split
  · exact held
  · next kind name types inferred =>
      apply held.register
      split at inferred
      · split at inferred
        · cases inferred
        · simp only [Option.some.injEq, Prod.mk.injEq] at inferred
          rw [← inferred.2.2]
          exact List.forall_mem_map.mpr fun argument _ => each argument
      · cases inferred

theorem perform_holds (admits : Admits P) {operation : Operation ε}
    (provided : operation.Answers fun u => P u.widen) (held : s.registry.Holds P) :
    (s.perform fs operation).registry.Holds P := by
  cases operation with
  | loadCorpus => exact loadCorpus_holds admits held
  | beforeFile source => exact beforeFile_holds admits source held
  | afterInvocation typeOf call => exact afterInvocation_holds admits call provided held
  | registrationParams suppressed call =>
      have loaded : (s.loadCorpus fs).1.registry.Holds P := loadCorpus_holds admits held
      rw [perform, registrationParams]
      rcases answered : s.loadCorpus fs with ⟨m, answer⟩
      rw [answered] at loaded
      cases answer with
      | error cause => exact loaded
      | ok count => exact loaded

/-- What holds of the types that are read, of widened answers and of the unknown type holds of all
types that are stored after a run. -/
theorem run_holds (admits : Admits P) {steps : List (FileSystem × Operation ε)}
    (provided : ∀ step ∈ steps, step.2.Answers fun u => P u.widen) (held : s.registry.Holds P) :
    (s.run steps).registry.Holds P := by
  induction steps generalizing s with
  | nil => exact held
  | cons step rest ih =>
      rw [List.forall_mem_cons] at provided
      exact ih provided.2 (perform_holds admits provided.1 held)

end Session

end Discovery

namespace Source

mutual

/-- An evident type is that of an expression without parentheses around it. -/
theorem exists_plainType? (source : Source) :
    ∀ (node : Node) {u : UnionType}, source.evidentType? node = some u →
      ∃ inner, source.plainType? inner = some u
  | ⟨type, start, stop, named, field, children⟩, u, known => by
      rw [evidentType?] at known
      split at known
      · exact exists_plainType?_first source children known
      · exact ⟨_, known⟩

theorem exists_plainType?_first (source : Source) :
    ∀ (children : List Node) {u : UnionType}, source.evidentFirst? children = some u →
      ∃ inner, source.plainType? inner = some u
  | [], u, known => by cases known
  | child :: rest, u, known => by
      rw [evidentFirst?] at known
      split at known
      · exact exists_plainType? source child known
      · exact exists_plainType?_first source rest known

end

/-- A plain type has one member, a literal or a name without arguments. -/
theorem plainType?_wellFormed (source : Source) (node : Node) :
    ∀ u ∈ source.plainType? node, u.WellFormed := by
  have unknown : ∀ u ∈ (none : Option UnionType), u.WellFormed := by simp
  have named : ∀ name, ∀ u ∈ some [AtomicType.named name []], UnionType.WellFormed u := by
    simpa using UnionType.wellFormed_name
  have literal : ∀ value, ∀ u ∈ some [AtomicType.literal value], UnionType.WellFormed u := by
    simpa using UnionType.wellFormed_literal
  have choice : ∀ (test : Bool) {first second : Option UnionType}, (∀ u ∈ first, u.WellFormed) →
      (∀ u ∈ second, u.WellFormed) → ∀ u ∈ (if test then first else second), u.WellFormed := by
    intro test first second yes no
    cases test with
    | true => exact yes
    | false => exact no
  rw [plainType?]
  apply choice
  · cases source.stringValue? node with
    | some value => exact literal _
    | none => exact named _
  apply choice _ (named _)
  apply choice
  · cases source.intValue? node with
    | some value => exact literal _
    | none => exact named _
  apply choice
  · cases Double.read? (Text.without '_' (source.textOf node)) with
    | some value => exact literal _
    | none => exact named _
  apply choice _ (literal _)
  apply choice _ (named _)
  apply choice _ (named _)
  apply choice
  · rw [objectType]
    cases node.namedChildren.find? fun child => child.isOneOf ["name", "qualified_name"] with
    | some child => exact named _
    | none => exact named _
  apply choice
  · cases node.child? "operator" with
    | some operator => exact choice _ (named _) unknown
    | none => exact unknown
  apply choice _ _ unknown
  intro u cast
  rw [castType?] at cast
  obtain ⟨type, -, found⟩ := Option.bind_eq_some_iff.mp cast
  obtain ⟨name, -, same⟩ := Option.bind_eq_some_iff.mp found
  exact named name.toList u same

theorem evidentType?_wellFormed {source : Source} {node : Node} {u : UnionType}
    (known : source.evidentType? node = some u) : u.WellFormed := by
  obtain ⟨inner, plain⟩ := exists_plainType? source node known
  exact plainType?_wellFormed source inner u plain

end Source

namespace Session

/-- The types that a text spells or that are evident from an expression. -/
def Known (u : UnionType) : Prop :=
  (∃ t, TypeExpr.parse t = .ok u) ∨ ∃ source node, Source.evidentType? source node = some u

theorem Known.wellFormed {u : UnionType} (known : Known u) : u.WellFormed := by
  rcases known with ⟨t, parsed⟩ | ⟨source, node, evident⟩
  · exact TypeExpr.wellFormed_of_parse parsed
  · exact Source.evidentType?_wellFormed evident

theorem admits_wellFormed : Admits fun u => u.WellFormed ∧ u.General where
  usable t u reading := by
    obtain ⟨s, v, parsed, rfl⟩ := TypeReading.ofText_eq_usable reading
    exact (TypeExpr.wellFormed_of_parse parsed).widen
  mixed := ⟨UnionType.wellFormed_name _, UnionType.general_mixed⟩

/-- Whatever operations a session has been through, every stored type is well formed at every depth
and has no literal among its members. The types that texts spell are well formed as well. -/
theorem stored_wellFormed {ε : Type} (data : Path) (settings : Settings) (issues : IssueBuffer)
    (fs : FileSystem) (steps : List (FileSystem × Operation ε))
    (provided : ∀ step ∈ steps, step.2.Answers Known) :
    (∀ entry ∈ ((start data settings .empty issues fs).1.run steps).registry.entries,
      ∀ u ∈ entry.2.parameters, u.WellFormed ∧ u.General) ∧
    ∀ t u, TypeExpr.parse t = .ok u → u.WellFormed := by
  refine ⟨?_, fun t u => TypeExpr.wellFormed_of_parse⟩
  have empty : Registry.empty.Holds fun u => u.WellFormed ∧ u.General := by
    simp [Registry.Holds, Registry.empty]
  have started : (start data settings .empty issues fs).1.registry.Holds
      fun u => u.WellFormed ∧ u.General :=
    loadCorpus_holds (s := ⟨data, settings, .empty, issues, []⟩) admits_wellFormed empty
  apply run_holds admits_wellFormed _ started
  intro step inside
  have known := provided step inside
  rcases step with ⟨files, operation⟩
  cases operation with
  | afterInvocation typeOf call =>
      exact fun expression u answered => (known expression u answered).wellFormed.widen
  | loadCorpus => trivial
  | beforeFile source => trivial
  | registrationParams suppressed call => trivial

/-- A call of `do_action` with a hook `x` and one argument. -/
def oneArgument : Call Unit :=
  ⟨some "do_action".toList, [⟨none, [], none, false, some "x".toList, none⟩,
    ⟨some (), [], none, false, none, none⟩], none⟩

theorem parse_oneOrTwo :
    TypeExpr.parse "1|2".toList = .ok [.literal (.int 1), .literal (.int 2)] := by
  have lexed : Lexeme.tokens "1|2".toList =
      .ok [⟨.number, "1".toList⟩, .ofMark '|', ⟨.number, "2".toList⟩] := by
    decide +kernel
  have one : TypeExpr.Derives true (.primary true) [⟨.number, "1".toList⟩] [.literal (.int 1)] :=
    .number rfl
  have two : TypeExpr.Derives true (.primary true) [⟨.number, "2".toList⟩] [.literal (.int 2)] :=
    .number rfl
  have second := (two.member 0 (by decide)).alternativesMore .alternativesNone
  rw [TypeExpr.parse_of_tokens lexed]
  exact TypeExpr.ofTokens_of_derives ((one.member 0 (by decide)).union second)

/-- The host knows the argument to be one of two literals. -/
def oneOrTwo : Operation Unit :=
  .afterInvocation (fun _ => some [.literal (.int 1), .literal (.int 2)]) oneArgument

/-- Two literals of one type leave one member when they are widened. -/
theorem stored_oneOrTwo :
    (bare.1.run [(noFiles, oneOrTwo)]).registry.entries =
      [("x".toList, ⟨.action, [[.named "int".toList []]]⟩)] ∧
    UnionType.WellFormed [.named "int".toList []] ∧
    UnionType.General [.named "int".toList []] := by
  have stored : (bare.1.run [(noFiles, oneOrTwo)]).registry.entries =
      [("x".toList, ⟨.action, [[.named "int".toList []]]⟩)] := rfl
  have provided : ∀ step ∈ [(noFiles, oneOrTwo)], step.2.Answers Known := by
    intro step inside
    rw [List.mem_singleton.mp inside]
    intro expression u answered
    rw [← Option.some.inj answered]
    exact Or.inl ⟨_, parse_oneOrTwo⟩
  have all : ∀ entry ∈ (bare.1.run [(noFiles, oneOrTwo)]).registry.entries,
      ∀ u ∈ entry.2.parameters, u.WellFormed ∧ u.General :=
    (stored_wellFormed _ _ _ _ _ provided).1
  rw [stored] at all
  exact ⟨stored, all _ List.mem_cons_self _ List.mem_cons_self⟩

end Session

end PhpHooks
