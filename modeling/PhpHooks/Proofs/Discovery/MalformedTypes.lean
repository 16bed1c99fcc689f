import Mathlib.Data.List.TakeWhile
import PhpHooks.Proofs.Corpus.Announcements
import PhpHooks.Proofs.Discovery.Recovery
import PhpHooks.Proofs.TypeExpr.Readable

set_option autoImplicit false

/-!
What texts that spell no type do to an analysis. A malformed text is dropped where it stands: it
takes its own descriptor with it, or becomes any type at its own position. A text that cannot be
read to its end is no malformed text; it ends the loading of a corpus and the search of a source,
be it for an integer that is too long or for nesting deeper than the stack.
-/
namespace PhpHooks

theorem foldr_toList {α β : Type} (f : α → Option β) (xs : List α) :
    xs.foldr (fun x ys => (f x).toList ++ ys) [] = xs.filterMap f := by
  induction xs with
  | nil => rfl
  | cons x rest ih =>
      rw [List.foldr_cons, ih, List.filterMap_cons]
      cases f x with
      | none => rfl
      | some y => rfl

/-- All values are there exactly if none is left out. -/
theorem mapM_eq_filterMap {α β : Type} (f : α → Option β) (xs : List α) :
    xs.mapM f = if (xs.filterMap f).length == xs.length then some (xs.filterMap f) else none := by
  induction xs with
  | nil => rfl
  | cons x rest ih =>
      have bound : (rest.filterMap f).length ≤ rest.length := List.length_filterMap_le f rest
      rw [List.mapM_cons, ih]
      cases value : f x with
      | none =>
          have fewer : ((rest.filterMap f).length == rest.length + 1) = false := by
            rw [beq_eq_false_iff_ne]
            omega
          simp [value, fewer]
      | some y =>
          cases whole : (rest.filterMap f).length == rest.length with
          | false => simp_all
          | true => simp_all

section Loading

variable [Stack]

/-- Whether all texts of its parameters are read to their ends. -/
def Descriptor.isReadable (d : Descriptor) : Bool :=
  d.expressions.all fun t => PhpHooks.isReadable (some t)

/-- The types of all parameters, if each of their texts spells one. -/
def Descriptor.types? (d : Descriptor) : Option (List UnionType) :=
  d.expressions.mapM fun t => widened? (some t)

/-- What a descriptor registers: its types under all its names, or nothing. -/
def Descriptor.registrations (d : Descriptor) : List Announcement :=
  match d.types? with
  | some types => (d.name :: d.aliases).map fun name => ⟨name, d.kind, types.map some⟩
  | none => []

namespace Corpus

theorem readsEach_readTypes :
    ReadsEach some (fun u types => u.toList ++ types) fun ts => (readTypes ts).2 := by
  -- Leaving a text out puts nothing in front of the types that follow.
  have nothing : ∀ answer : Except ReadingFault (List UnionType),
      answer = answer.map (Option.toList none ++ ·) := by
    intro answer
    cases answer <;> rfl
  refine ⟨rfl, ?_⟩
  intro t rest
  rw [readTypes, normalize]
  cases TypeReading.ofText (some t) with
  | failed cause => rfl
  | usable u => rfl
  | nothing => exact nothing (readTypes rest).2
  | dropped cause => exact nothing (readTypes rest).2

variable {d : Descriptor}

theorem readTypes_expressions (readable : d.isReadable = true) :
    ∃ events, readTypes d.expressions =
      (events, .ok (d.expressions.filterMap fun t => widened? (some t))) := by
  have read := readsEach_readTypes.eq_ok (List.all_eq_true.mp readable)
  rw [foldr_toList (fun t => widened? (some t))] at read
  exact ⟨_, Prod.ext rfl read⟩

theorem readTypes_expressions_error (unreadable : d.isReadable = false) :
    ∃ events cause, readTypes d.expressions = (events, .error cause) := by
  have long : ∃ t ∈ d.expressions, isReadable (some t) = false := by
    simpa [Descriptor.isReadable] using unreadable
  obtain ⟨cause, refused⟩ := readsEach_readTypes.eq_error long
  exact ⟨_, cause, Prod.ext rfl refused⟩

/-- Whether an entry is read to its end; what is no descriptor is not read. -/
def entryReadable (entry : Option Descriptor) : Bool :=
  entry.all Descriptor.isReadable

def entryRegistrations (entry : Option Descriptor) : List Announcement :=
  (entry.map Descriptor.registrations).getD []

def entryUsable (entry : Option Descriptor) : Bool :=
  (entry.bind Descriptor.types?).isSome

theorem loadEntries_none (source : Text) (rest : List (Option Descriptor)) (r : Registry) :
    (loadEntries source (none :: rest) r).registry = (loadEntries source rest r).registry ∧
      (loadEntries source (none :: rest) r).count = (loadEntries source rest r).count ∧
      (loadEntries source (none :: rest) r).fault = (loadEntries source rest r).fault :=
  ⟨rfl, rfl, rfl⟩

theorem loadEntries_unreadable (source : Text) (rest : List (Option Descriptor)) (r : Registry)
    (unreadable : d.isReadable = false) :
    (loadEntries source (some d :: rest) r).registry = r ∧
      (loadEntries source (some d :: rest) r).count = 0 ∧
      (loadEntries source (some d :: rest) r).fault.isSome = true := by
  obtain ⟨events, cause, refused⟩ := readTypes_expressions_error unreadable
  simp [loadEntries, refused]

/-- A readable descriptor registers its types if they are all there, and is passed over if not. -/
theorem loadEntries_readable (source : Text) (rest : List (Option Descriptor)) (r : Registry)
    (readable : d.isReadable = true) :
    (loadEntries source (some d :: rest) r).registry =
        (loadEntries source rest (r.announceAll d.registrations)).registry ∧
      (loadEntries source (some d :: rest) r).count =
        (loadEntries source rest (r.announceAll d.registrations)).count + d.types?.isSome.toNat ∧
      (loadEntries source (some d :: rest) r).fault =
        (loadEntries source rest (r.announceAll d.registrations)).fault := by
  obtain ⟨events, read⟩ := readTypes_expressions readable
  have all := mapM_eq_filterMap (fun t => widened? (some t)) d.expressions
  cases whole : (d.expressions.filterMap fun t => widened? (some t)).length ==
      d.expressions.length with
  | true =>
      rw [whole, if_pos rfl] at all
      have registered : d.registrations = (d.name :: d.aliases).map fun name =>
          ⟨name, d.kind, (d.expressions.filterMap fun t => widened? (some t)).map some⟩ := by
        rw [Descriptor.registrations, Descriptor.types?, all]
      rw [registered, ← registerNames_registry, Descriptor.types?, all]
      simp only [loadEntries, read, whole, ↓reduceIte]
      exact ⟨rfl, Nat.add_comm _ _, rfl⟩
  | false =>
      rw [whole, if_neg (by simp)] at all
      have registered : d.registrations = [] := by
        rw [Descriptor.registrations, Descriptor.types?, all]
      rw [registered, Descriptor.types?, all]
      simp only [loadEntries, read, whole, Bool.false_eq_true, ↓reduceIte]
      exact ⟨rfl, rfl, rfl⟩

/-- Loading registers what the entries in front of the first unreadable one register, and fails if
there is such an entry. -/
theorem loadEntries_spec (source : Text) (entries : List (Option Descriptor)) (r : Registry) :
    (loadEntries source entries r).registry =
        r.announceAll ((entries.takeWhile entryReadable).flatMap entryRegistrations) ∧
      (loadEntries source entries r).count =
        (entries.takeWhile entryReadable).countP entryUsable ∧
      ((loadEntries source entries r).fault = none ↔
        ∀ entry ∈ entries, entryReadable entry = true) := by
  induction entries generalizing r with
  | nil => exact ⟨rfl, rfl, by simp [loadEntries]⟩
  | cons entry rest ih =>
      cases entry with
      | none =>
          obtain ⟨registry, count, fault⟩ := loadEntries_none source rest r
          obtain ⟨ihRegistry, ihCount, ihFault⟩ := ih r
          have readable : entryReadable none = true := rfl
          rw [registry, count, fault, List.takeWhile_cons_of_pos readable, List.flatMap_cons,
            List.countP_cons_of_neg (by simp [entryUsable]), List.forall_mem_cons]
          exact ⟨ihRegistry, ihCount, ihFault.trans (by simp [readable])⟩
      | some d =>
          cases readable : d.isReadable with
          | false =>
              obtain ⟨registry, count, fault⟩ := loadEntries_unreadable source rest r readable
              have stops : entryReadable (some d) = false := readable
              rw [registry, count, List.takeWhile_cons_of_neg (by simp [stops]),
                List.forall_mem_cons]
              refine ⟨rfl, rfl, ?_⟩
              simp [stops, Option.isSome_iff_ne_none.mp fault]
          | true =>
              obtain ⟨registry, count, fault⟩ := loadEntries_readable source rest r readable
              obtain ⟨ihRegistry, ihCount, ihFault⟩ := ih (r.announceAll d.registrations)
              have goesOn : entryReadable (some d) = true := readable
              rw [registry, count, fault, List.takeWhile_cons_of_pos goesOn, List.flatMap_cons,
                List.countP_cons, List.forall_mem_cons, Registry.announceAll_append]
              refine ⟨ihRegistry, ?_, ihFault.trans (by simp [goesOn])⟩
              rw [ihCount]
              cases usable : d.types?.isSome with
              | false => simp [entryUsable, usable]
              | true => simp [entryUsable, usable]

theorem loadHooks_spec (validate : JsonValue → Option Descriptor) (source : Text) (r : Registry)
    (hooks : List JsonValue) :
    (loadHooks validate source r hooks).registry =
        r.announceAll (((hooks.map validate).takeWhile entryReadable).flatMap entryRegistrations) ∧
      (loadHooks validate source r hooks).count =
        ((hooks.map validate).takeWhile entryReadable).countP entryUsable ∧
      ((loadHooks validate source r hooks).fault = none ↔
        ∀ entry ∈ hooks.map validate, entryReadable entry = true) := by
  cases hooks with
  | nil => exact ⟨rfl, rfl, by simp [loadHooks, ofJson, JsonValue.field?, load]⟩
  | cons first rest => exact loadEntries_spec source ((first :: rest).map validate) r

end Corpus

end Loading

namespace DocComments

/-- The type of a documented parameter; any type where its text spells none. -/
def paramType (param : ParamTag) : UnionType :=
  (widened? (paramText param)).getD UnionType.mixed

/-- The hook that a call with this comment documents: one with the types of all parameters, if the
call invokes a hook and the comment documents a parameter. -/
def documented? {ε : Type} (call : Call ε) (doc : Text) : Option DocumentedHook :=
  match FunctionName.invocation? call.function, call.hook?, DocBlock.parse doc with
  | some kind, some name, .ok block =>
      if block.params.isEmpty then none else some ⟨name, kind, block.params.map paramType⟩
  | _, _, _ => none

def settle {ε : Type} (s : State) (visit : Visit ε) : State :=
  match pendingAt s.pending visit, visit.tag, visit.call with
  | some doc, .call, some call =>
      ⟨none, ((documented? call doc).map fun hook => put hook s.hooks).getD s.hooks⟩
  | pending, _, _ => ⟨pending, s.hooks⟩

section Visits

variable {ε : Type}

/-- A pending comment is the node's own or was pending before. -/
theorem mem_pendingAt {pending : Option Text} {visit : Visit ε} {doc : Text}
    (inside : doc ∈ pendingAt pending visit) : doc ∈ visit.doc ∨ doc ∈ pending := by
  rw [pendingAt, Option.mem_def, Option.or_eq_some_iff] at inside
  rcases inside with own | ⟨-, earlier⟩
  · exact Or.inl (Option.filter_eq_some_iff.mp own).1
  · split at earlier
    · exact Or.inr earlier
    · cases earlier

theorem mem_pending_settle {s : State} {visit : Visit ε} {doc : Text}
    (inside : doc ∈ (settle s visit).pending) : doc ∈ pendingAt s.pending visit := by
  unfold settle at inside
  split at inside
  · cases inside
  · exact inside

variable [Stack]

theorem readsEach_paramTypes :
    ReadsEach paramText (fun u types => u.getD UnionType.mixed :: types) fun params =>
      (paramTypes params).2 := by
  refine ⟨rfl, ?_⟩
  intro param rest
  rw [paramTypes, normalize]
  cases TypeReading.ofText (paramText param) with
  | failed cause => rfl
  | usable u => rfl
  | nothing => rfl
  | dropped cause => rfl

theorem paramTypes_of_isReadable {params : List ParamTag}
    (readable : ∀ param ∈ params, isReadable (paramText param) = true) :
    ∃ events, paramTypes params = (events, .ok (params.map paramType)) := by
  refine ⟨_, Prod.ext rfl ?_⟩
  rw [readsEach_paramTypes.eq_ok readable, List.map_eq_foldr]
  rfl

/-- Whether the texts of its parameters are all read to their ends. -/
def docReadable (doc : Text) : Bool :=
  match DocBlock.parse doc with
  | .ok block => block.params.all fun param => isReadable (paramText param)
  | .error _ => true

theorem examine_of_docReadable (call : Call ε) {doc : Text} (readable : docReadable doc = true) :
    ∃ events, examine call doc = (events, .ok (documented? call doc)) := by
  unfold examine documented?
  cases FunctionName.invocation? call.function with
  | none => exact ⟨_, rfl⟩
  | some kind =>
      cases call.hook? with
      | none => exact ⟨_, rfl⟩
      | some name =>
          cases parsed : DocBlock.parse doc with
          | error cause => exact ⟨_, rfl⟩
          | ok block =>
              rw [docReadable, parsed] at readable
              obtain ⟨events, types⟩ := paramTypes_of_isReadable (List.all_eq_true.mp readable)
              simp only [types]
              cases block.params with
              | nil => exact ⟨_, rfl⟩
              | cons param rest => exact ⟨_, rfl⟩

theorem examine_of_not_docReadable {call : Call ε} {kind : HookKind} {hook doc : Text}
    (invocation : FunctionName.invocation? call.function = some kind)
    (named : call.hook? = some hook) (unreadable : docReadable doc = false) :
    ∃ events cause, examine call doc = (events, .error cause) := by
  unfold docReadable at unreadable
  split at unreadable
  · next block parsed =>
      have long : ∃ param ∈ block.params, isReadable (paramText param) = false := by
        simpa using unreadable
      obtain ⟨cause, refused⟩ := readsEach_paramTypes.eq_error long
      have read : paramTypes block.params = (_, .error cause) := Prod.ext rfl refused
      exact ⟨_, cause, by simp only [examine, invocation, named, parsed]; rw [read]⟩
  · cases unreadable

theorem step_of_docReadable (s : State) (visit : Visit ε)
    (readable : ∀ doc ∈ pendingAt s.pending visit, docReadable doc = true) :
    ∃ events, step s visit = (settle s visit, events, none) := by
  unfold step settle
  cases pending : pendingAt s.pending visit with
  | none => exact ⟨_, rfl⟩
  | some doc =>
      cases visit.tag with
      | call =>
          cases visit.call with
          | none => exact ⟨_, rfl⟩
          | some call =>
              obtain ⟨events, found⟩ := examine_of_docReadable call (readable doc pending)
              simp only [found]
              cases documented? call doc with
              | none => exact ⟨_, rfl⟩
              | some hook => exact ⟨_, rfl⟩
      | _ => exact ⟨_, rfl⟩

/-- Going through nodes with readable comments ends, with what each of them adds in order. -/
theorem collectFrom_of_docReadable (s : State) (visits : List (Visit ε))
    (start : ∀ doc ∈ s.pending, docReadable doc = true)
    (readable : ∀ visit ∈ visits, ∀ doc ∈ visit.doc, docReadable doc = true) :
    (collectFrom s visits).2 = .ok (visits.foldl settle s).hooks := by
  induction visits generalizing s with
  | nil => rfl
  | cons visit rest ih =>
      rw [List.forall_mem_cons] at readable
      have here : ∀ doc ∈ pendingAt s.pending visit, docReadable doc = true := by
        intro doc inside
        exact (mem_pendingAt inside).elim (readable.1 doc) (start doc)
      obtain ⟨events, stepped⟩ := step_of_docReadable s visit here
      have kept : ∀ doc ∈ (settle s visit).pending, docReadable doc = true :=
        fun doc inside => here doc (mem_pending_settle inside)
      have later := ih (settle s visit) kept readable.2
      simp only [collectFrom, stepped, List.foldl_cons]
      exact later

theorem ne_nil_of_not_docReadable {doc : Text} (unreadable : docReadable doc = false) :
    doc ≠ [] := by
  rintro rfl
  have nothing : docReadable [] = true := rfl
  rw [nothing] at unreadable
  cases unreadable

/-- The visit of a call with an unreadable comment ends the search. -/
theorem collectFrom_of_not_docReadable {visit : Visit ε} {kind : HookKind} {hook doc : Text}
    (invokes : Invokes visit kind hook) (commented : visit.doc = some doc)
    (unreadable : docReadable doc = false) (s : State) (rest : List (Visit ε)) :
    ∃ cause, (collectFrom s (visit :: rest)).2 = .error cause := by
  obtain ⟨tag, call, called, invocation, named⟩ := invokes
  have pending := pendingAt_own tag commented (ne_nil_of_not_docReadable unreadable) s.pending
  obtain ⟨events, cause, refused⟩ := examine_of_not_docReadable invocation named unreadable
  exact ⟨cause, by simp only [collectFrom, step, pending, tag, called, refused]⟩

end Visits

end DocComments

open Corpus (entryReadable entryRegistrations entryUsable loadHooks typesDescriptor typesHook)
open DocComments (Invokes docReadable typesComment)

section Notation

variable {us : List UnionType}

theorem entryReadable_typesHook (hook : Text) (kind : HookKind) (filled : ∀ u ∈ us, u.text ≠ []) :
    entryReadable (Descriptor.ofJson? (typesHook hook kind us)) =
      us.all fun u => isReadable (some u.text) := by
  rw [Corpus.ofJson?_typesHook, entryReadable, Option.all_some, Descriptor.isReadable,
    Corpus.expressions_typesDescriptor hook kind filled, List.all_map]
  rfl

theorem entryRegistrations_typesHook (hook : Text) (kind : HookKind)
    (filled : ∀ u ∈ us, u.text ≠ []) :
    entryRegistrations (Descriptor.ofJson? (typesHook hook kind us)) =
      match (us.map UnionType.text).mapM fun t => widened? (some t) with
      | some types => [⟨hook, kind, types.map some⟩]
      | none => [] := by
  rw [Corpus.ofJson?_typesHook, entryRegistrations, Option.map_some, Option.getD_some,
    Descriptor.registrations, Descriptor.types?,
    Corpus.expressions_typesDescriptor hook kind filled]
  rfl

theorem docReadable_typesComment (each : ∀ u ∈ us, ParamTag.TypeText u.text) :
    docReadable (typesComment us) = us.all fun u => isReadable (some u.text) := by
  obtain ⟨block, parsed, params⟩ := DocBlock.parse_paramComment (List.forall_mem_map.mpr each)
  rw [docReadable, typesComment, parsed]
  simp only [params, List.map_map, List.all_map, Function.comp_def,
    DocComments.paramText_of_plain]

/-- The comment documents a type for each text, any type where the text spells none. -/
theorem settle_typesComment {ε : Type} {visit : Visit ε} {kind : HookKind} {hook : Text}
    (invokes : Invokes visit kind hook) (commented : visit.doc = some (typesComment us))
    (filled : us ≠ []) (each : ∀ u ∈ us, ParamTag.TypeText u.text) (s : DocComments.State) :
    (DocComments.settle s visit).hooks = DocComments.put
      ⟨hook, kind, us.map fun u => (widened? (some u.text)).getD UnionType.mixed⟩ s.hooks := by
  obtain ⟨tag, call, called, invocation, named⟩ := invokes
  have pending := DocComments.pendingAt_own tag commented (DocComments.typesComment_ne_nil us)
    s.pending
  obtain ⟨block, parsed, params⟩ := DocBlock.parse_paramComment (List.forall_mem_map.mpr each)
  have some_param : block.params.isEmpty = false := by simpa [params] using filled
  have types : block.params.map DocComments.paramType =
      us.map fun u => (widened? (some u.text)).getD UnionType.mixed := by
    rw [params, List.map_map, List.map_map]
    apply List.map_congr_left
    intro u listed
    simp only [Function.comp_apply, DocComments.paramType, DocComments.paramText_of_plain]
  have found : DocComments.documented? call (typesComment us) = some
      ⟨hook, kind, us.map fun u => (widened? (some u.text)).getD UnionType.mixed⟩ := by
    simp only [DocComments.documented?, invocation, named, typesComment, parsed, some_param,
      Bool.false_eq_true, ↓reduceIte, types]
  simp only [DocComments.settle, pending, tag, called, found, Option.map_some, Option.getD_some]

end Notation

section LongIntegers

variable {n : Int}

theorem text_int (n : Int) : UnionType.text [.literal (.int n)] = Text.ofInt n := by
  rw [UnionType.text_eq]
  exact Text.joined_singleton _ _

theorem isReadable_of_long (long : 10 ^ Numeral.maxDigits ≤ n.natAbs) :
    isReadable (some (UnionType.text [.literal (.int n)])) = false := by
  rw [text_int]
  simp [isReadable, TypeExpr.overflows_of_parse (TypeExpr.parse_ofInt_of_long long)]

theorem widened?_of_long (long : 10 ^ Numeral.maxDigits ≤ n.natAbs) :
    widened? (some (UnionType.text [.literal (.int n)])) = none := by
  rw [text_int, widened?, Option.bind_some, TypeExpr.parse_ofInt_of_long long]
  rfl

theorem text_int_ne_nil (n : Int) :
    ∀ u ∈ [[AtomicType.literal (.int n)]], UnionType.text u ≠ [] := by
  rw [List.forall_mem_singleton, text_int]
  exact (Written.ofInt n).ne_nil

theorem loadHooks_of_long (long : 10 ^ Numeral.maxDigits ≤ n.natAbs) (source : Text)
    (r : Registry) {hook : Text} {kind : HookKind} {hooks : List JsonValue}
    (listed : typesHook hook kind [[.literal (.int n)]] ∈ hooks) :
    (loadHooks Descriptor.ofJson? source r hooks).fault ≠ none := by
  rw [Ne, (Corpus.loadHooks_spec _ source r _).2.2, List.forall_mem_map]
  intro readable
  have here := readable _ listed
  rw [entryReadable_typesHook hook kind (text_int_ne_nil n), List.all_cons,
    isReadable_of_long long] at here
  cases here

theorem docReadable_of_long (long : 10 ^ Numeral.maxDigits ≤ n.natAbs) :
    docReadable (typesComment [[.literal (.int n)]]) = false := by
  have each : ∀ u ∈ [[AtomicType.literal (.int n)]], ParamTag.TypeText (UnionType.text u) := by
    rw [List.forall_mem_singleton, text_int]
    exact Written.typeText_ofInt n
  rw [docReadable_typesComment each, List.all_cons, isReadable_of_long long, Bool.false_and]

/-- The least number with too many digits. -/
def tooLong : Int := (10 ^ Numeral.maxDigits : Nat)

theorem le_natAbs_tooLong : 10 ^ Numeral.maxDigits ≤ tooLong.natAbs :=
  Nat.le_of_eq (Int.natAbs_natCast _).symm

end LongIntegers

section Example

/-- No type, but its text stands where a type might. -/
def stray : UnionType := [.named "%".toList []]

def integer : UnionType := [.named "int".toList []]

theorem tokens_stray : Lexeme.tokens stray.text = .error '%' := by decide

theorem tokens_integer : Lexeme.tokens integer.text = .ok [⟨.name, "int".toList⟩] := by decide

theorem parse_stray : TypeExpr.parse stray.text = .error (.malformed (.character '%')) := by
  simp only [TypeExpr.parse, tokens_stray]

theorem parse_integer : TypeExpr.parse integer.text = .ok integer := by
  have derived := (TypeExpr.derives_int true).member 0 (by decide)
  rw [TypeExpr.parse_of_tokens tokens_integer]
  exact TypeExpr.ofTokens_of_derives (derived.union .alternativesNone)

theorem isReadable_stray : isReadable (some stray.text) = true := by
  simp [isReadable, TypeExpr.overflows, parse_stray]

theorem isReadable_integer : isReadable (some integer.text) = true := by
  simp [isReadable, TypeExpr.overflows, parse_integer]

theorem widened?_stray : widened? (some stray.text) = none := by
  simp [widened?, parse_stray, Except.toOption]

theorem widened?_integer : widened? (some integer.text) = some integer := by
  simp only [widened?, Option.bind_some, parse_integer]
  rfl

theorem typeText_strayOrInteger : ∀ u ∈ [stray, integer], ParamTag.TypeText u.text := by
  have whole : Lexeme.Whole ⟨.name, "int".toList⟩ := rfl
  have percent : ParamTag.TypeText stray.text :=
    ⟨.ink (by decide) .nil, ⟨'%', rfl, by decide⟩, ⟨'%', rfl, by decide⟩⟩
  have int : ParamTag.TypeText integer.text := (Written.ofName whole).typeText (by decide)
  rw [List.forall_mem_cons, List.forall_mem_singleton]
  exact ⟨percent, int⟩

/-- A hook whose type is stray, and one behind it. -/
def strayHooks : List JsonValue :=
  [typesHook "bad".toList .action [stray], typesHook "good".toList .action [integer]]

end Example

/-- Only a text that cannot be read to its end ends an analysis, and it takes an integer that is too
long or nesting that the stack has no room for to make such a text. Any other gives its type or
none. A document registers what its descriptors up to the first unreadable one give, each of which
counts if all its texts spell types. The search of a source finds the hook of every call, with any
type at the positions whose texts spell none, unless the comment of a call is unreadable. -/
theorem ends_only_at_unreadable_texts [Stack] {ε : Type}
    (validate : JsonValue → Option Descriptor) :
    (∀ t : Option Text, (isReadable t = true → normalize t = .ok (widened? t)) ∧
      (isReadable t = false → ∃ cause, normalize t = .error cause)) ∧
    (∀ t : Text, isReadable (some t) = false → ∃ tokens, Lexeme.tokens t = .ok tokens ∧
      ((∃ token ∈ tokens, token.isLongInteger = true) ∨
        normalize (some t) = .error .exhausted ∧
          Stack.depth < tokens.countP TypeExpr.opens)) ∧
    (∀ (source : Text) (r : Registry) (hooks : List JsonValue),
      (loadHooks validate source r hooks).registry =
        r.announceAll (((hooks.map validate).takeWhile entryReadable).flatMap entryRegistrations) ∧
      (loadHooks validate source r hooks).count =
        ((hooks.map validate).takeWhile entryReadable).countP entryUsable ∧
      ((loadHooks validate source r hooks).fault = none ↔
        ∀ entry ∈ hooks.map validate, entryReadable entry = true)) ∧
    (∀ visits : List (Visit ε),
      (∀ visit ∈ visits, ∀ doc ∈ visit.doc, docReadable doc = true) →
      (DocComments.collect visits).2 = .ok (visits.foldl DocComments.settle .initial).hooks) ∧
    (∀ (s : DocComments.State) (visit : Visit ε) (rest : List (Visit ε)) (kind : HookKind)
      (hook doc : Text), Invokes visit kind hook → visit.doc = some doc →
      docReadable doc = false →
      ∃ cause, (DocComments.collectFrom s (visit :: rest)).2 = .error cause) := by
  refine ⟨?_, ?_, Corpus.loadHooks_spec validate, ?_, ?_⟩
  · exact fun t => ⟨normalize_of_isReadable, normalize_of_not_isReadable⟩
  · intro t unreadable
    cases room : Stack.hasRoom t with
    | true =>
        have beyond : TypeExpr.overflows t = true := by simpa [isReadable, room] using unreadable
        obtain ⟨tokens, lexed, long⟩ := TypeExpr.exists_isLongInteger beyond
        exact ⟨tokens, lexed, Or.inl long⟩
    | false =>
        obtain ⟨tokens, lexed, deep⟩ := TypeExpr.exists_openings room
        exact ⟨tokens, lexed, Or.inr ⟨normalize_of_full room, deep⟩⟩
  · intro visits readable
    have nothing : ∀ doc ∈ DocComments.State.initial.pending, docReadable doc = true := by
      simp [DocComments.State.initial]
    exact DocComments.collectFrom_of_docReadable .initial visits nothing readable
  · intro s visit rest kind hook doc invokes commented unreadable
    exact DocComments.collectFrom_of_not_docReadable invokes commented unreadable s rest

/-- The stray type costs its own hook in the document and its own position in the comment. -/
theorem ends_only_at_unreadable_texts_stray :
    normalize (some stray.text) = .ok none ∧
    (loadHooks Descriptor.ofJson? [] .empty strayHooks).fault = none ∧
    (loadHooks Descriptor.ofJson? [] .empty strayHooks).registry.entries =
      [("good".toList, ⟨.action, [integer]⟩)] ∧
    (DocComments.collect [commentedAction [stray, integer]]).2 =
      .ok [⟨"x".toList, .action, [UnionType.mixed, integer]⟩] := by
  obtain ⟨texts, -, documents, searches, -⟩ :=
    ends_only_at_unreadable_texts (ε := Unit) Descriptor.ofJson?
  obtain ⟨registry, -, fault⟩ := documents [] .empty strayHooks
  have filledStray : ∀ u ∈ [stray], u.text ≠ [] := List.forall_mem_singleton.mpr (by decide)
  have filledInteger : ∀ u ∈ [integer], u.text ≠ [] := List.forall_mem_singleton.mpr (by decide)
  have readable : ∀ entry ∈ strayHooks.map Descriptor.ofJson?, entryReadable entry = true := by
    rw [strayHooks, List.forall_mem_map, List.forall_mem_cons,
      List.forall_mem_singleton, entryReadable_typesHook _ _ filledStray,
      entryReadable_typesHook _ _ filledInteger]
    simp [isReadable_stray, isReadable_integer]
  have registrations : (strayHooks.map Descriptor.ofJson?).flatMap entryRegistrations =
      [⟨"good".toList, .action, [some integer]⟩] := by
    simp [strayHooks, entryRegistrations_typesHook _ _ filledStray,
      entryRegistrations_typesHook _ _ filledInteger, widened?_stray, widened?_integer]
  have comments : ∀ visit ∈ [commentedAction [stray, integer]], ∀ doc ∈ visit.doc,
      docReadable doc = true := by
    rw [List.forall_mem_singleton]
    rintro doc ⟨⟩
    rw [docReadable_typesComment typeText_strayOrInteger]
    simp [isReadable_stray, isReadable_integer]
  have invokes : Invokes (commentedAction [stray, integer]) .action "x".toList :=
    ⟨rfl, _, rfl, by decide, rfl⟩
  refine ⟨?_, fault.mpr readable, ?_, ?_⟩
  · rw [(texts (some stray.text)).1 isReadable_stray, widened?_stray]
  · rw [registry, List.takeWhile_eq_self_iff.mpr readable, registrations]
    rfl
  · rw [searches _ comments, List.foldl_cons, List.foldl_nil,
      settle_typesComment invokes rfl (by simp) typeText_strayOrInteger]
    simp [widened?_stray, widened?_integer, DocComments.State.initial, DocComments.put]

section Depth

/-- A stack that has room for texts with at most `depth` openings and for no others. -/
abbrev Stack.within (depth : Nat) : Stack where
  depth := depth
  hasRoom t := decide (TypeExpr.openings t ≤ depth)
  hasRoom_of_openings_le _ := decide_eq_true

/-- Parentheses that open and never close. -/
def unclosed (count : Nat) : Text := List.replicate count '('

theorem tokens_unclosed (count : Nat) :
    Lexeme.tokens (unclosed count) = .ok (List.replicate count (.ofMark '(')) := by
  induction count with
  | zero => rfl
  | succ count ih =>
      rw [unclosed] at ih ⊢
      rw [List.replicate_succ, Lexeme.tokens_cons_mark _ (by decide), ih]
      rfl

theorem openings_unclosed (count : Nat) : TypeExpr.openings (unclosed count) = count := by
  have opening : TypeExpr.opens (.ofMark '(') = true := by decide
  rw [TypeExpr.openings, tokens_unclosed]
  simp [List.countP_replicate, opening]

theorem normalize_unclosed (depth : Nat) :
    @normalize (Stack.within depth) (some (unclosed (depth + 1))) = .error .exhausted := by
  apply @normalize_of_full (Stack.within depth)
  apply decide_eq_false
  rw [openings_unclosed]
  exact Nat.not_succ_le_self depth

end Depth

/-- A long integer is a text that makes all three of them fail. So does, on a stack of any depth, a
text that nests deeper, although the text is malformed and there is no integer in it. -/
theorem not_always_through :
    (¬ ∀ t : Text, ∃ u, normalize (some t) = .ok u) ∧
    (¬ ∀ (source : Text) (r : Registry) (hooks : List JsonValue),
      (loadHooks Descriptor.ofJson? source r hooks).fault = none) ∧
    (¬ ∀ visits : List (Visit Unit), ∃ hooks, (DocComments.collect visits).2 = .ok hooks) ∧
    ∀ depth, ¬ ∀ t : Text, (∀ tokens, Lexeme.tokens t = .ok tokens →
      ∀ token ∈ tokens, token.isLongInteger = false) →
      ∃ u, @normalize (Stack.within depth) (some t) = .ok u := by
  refine ⟨?_, ?_, ?_, ?_⟩
  · intro through
    obtain ⟨u, read⟩ := through (Text.ofInt tooLong)
    rw [normalize_of_overflow rfl (TypeExpr.parse_ofInt_of_long le_natAbs_tooLong)] at read
    cases read
  · intro through
    exact loadHooks_of_long le_natAbs_tooLong [] .empty
      (List.mem_singleton_self (typesHook [] .action [[.literal (.int tooLong)]])) (through _ _ _)
  · intro through
    obtain ⟨hooks, found⟩ := through [commentedAction [[.literal (.int tooLong)]]]
    have invokes : Invokes (commentedAction [[.literal (.int tooLong)]]) .action "x".toList :=
      ⟨rfl, _, rfl, by decide, rfl⟩
    obtain ⟨cause, refused⟩ := DocComments.collectFrom_of_not_docReadable invokes rfl
      (docReadable_of_long le_natAbs_tooLong) .initial []
    rw [DocComments.collect, refused] at found
    cases found
  · intro depth through
    have short : ∀ tokens, Lexeme.tokens (unclosed (depth + 1)) = .ok tokens →
        ∀ token ∈ tokens, token.isLongInteger = false := by
      intro tokens lexed token inside
      rw [tokens_unclosed, Except.ok.injEq] at lexed
      rw [← lexed] at inside
      rw [List.eq_of_mem_replicate inside]
      rfl
    obtain ⟨u, read⟩ := through _ short
    rw [normalize_unclosed] at read
    cases read

end PhpHooks
