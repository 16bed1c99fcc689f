import Mathlib.Data.List.Forall2
import PhpHooks.Proofs.Discovery.MalformedTypes

set_option autoImplicit false

/-!
Loading hooks one by one. A value is accepted if it is a descriptor all of whose parameter texts
spell types. Loading registers what the accepted values say, in order, and counts them; all other
values might as well not be there.
-/
namespace PhpHooks

theorem widened?_eq_some_iff (t : Text) (u : UnionType) :
    widened? (some t) = some u ↔ normalize (some t) = .ok (some u) := by
  cases readable : isReadable (some t) with
  | true =>
      rw [normalize_of_isReadable readable]
      simp
  | false =>
      have beyond : TypeExpr.overflows t = true := by simpa [isReadable] using readable
      obtain ⟨cause, parsed⟩ := TypeExpr.parse_of_overflows beyond
      rw [normalize_of_overflow rfl parsed]
      simp [widened?, parsed, Except.toOption]

theorem mapM_eq_some_iff {α β : Type} (f : α → Option β) (xs : List α) (ys : List β) :
    xs.mapM f = some ys ↔ List.Forall₂ (fun x y => f x = some y) xs ys := by
  induction xs generalizing ys with
  | nil => simp [eq_comm]
  | cons x xs ih =>
      rw [List.mapM_cons, List.forall₂_cons_left_iff]
      cases here : f x with
      | none => simp
      | some y =>
          cases rest : xs.mapM f with
          | none => simp [← ih, rest]
          | some others => simp [← ih, rest, eq_comm]

namespace Descriptor

/-- The types are those of all parameter texts exactly if every text has one of its own. -/
theorem types?_eq_some_iff (d : Descriptor) (types : List UnionType) :
    d.types? = some types ↔
      List.Forall₂ (fun t u => normalize (some t) = .ok (some u)) d.expressions types := by
  rw [types?, mapM_eq_some_iff]
  simp only [widened?_eq_some_iff]

theorem isReadable_of_types? {d : Descriptor} {types : List UnionType}
    (usable : d.types? = some types) : d.isReadable = true := by
  rw [types?_eq_some_iff] at usable
  have readable := usable.imp fun t u read => And.intro (isReadable_of_normalize read) read
  rw [isReadable, List.all_eq_true]
  exact ((List.forall₂_and_left _ _).mp readable).1

/-- No integer in the texts of the parameters has more digits than may be read. -/
def ShortIntegers (d : Descriptor) : Prop :=
  ∀ t ∈ d.expressions, ∀ tokens, Lexeme.tokens t = .ok tokens →
    ∀ token ∈ tokens, token.isLongInteger = false

theorem ShortIntegers.isReadable {d : Descriptor} (short : d.ShortIntegers) :
    d.isReadable = true := by
  rw [Descriptor.isReadable, List.all_eq_true]
  intro t listed
  cases beyond : TypeExpr.overflows t with
  | false => simp [PhpHooks.isReadable, beyond]
  | true =>
      obtain ⟨tokens, lexed, token, inside, long⟩ := TypeExpr.exists_isLongInteger beyond
      rw [short t listed tokens lexed token inside] at long
      cases long

end Descriptor

namespace Corpus

/-- The registrations of an accepted value: its types under its name, then under each alias. -/
def registrationsOf (accepted : Descriptor × List UnionType) : List Announcement :=
  (accepted.1.name :: accepted.1.aliases).map fun name =>
    ⟨name, accepted.1.kind, accepted.2.map some⟩

variable (validate : JsonValue → Option Descriptor)

/-- The descriptor that a value is, with the types of all its parameters, if each of their texts
spells one. -/
def accepted? (value : JsonValue) : Option (Descriptor × List UnionType) :=
  (validate value).bind fun d => d.types?.map fun types => (d, types)

/-- No integer in the types that the values give is too long to be read. -/
def ShortIntegers (hooks : List JsonValue) : Prop :=
  ∀ value ∈ hooks, ∀ d ∈ validate value, d.ShortIntegers

/-- The values in front of the first that cannot be read to its end. -/
def reached (hooks : List JsonValue) : List JsonValue :=
  hooks.takeWhile fun value => entryReadable (validate value)

theorem accepted?_eq_some_iff (value : JsonValue) (d : Descriptor) (types : List UnionType) :
    accepted? validate value = some (d, types) ↔ validate value = some d ∧
      List.Forall₂ (fun t u => normalize (some t) = .ok (some u)) d.expressions types := by
  rw [← Descriptor.types?_eq_some_iff, accepted?, Option.bind_eq_some_iff]
  simp only [Option.map_eq_some_iff, Prod.mk.injEq]
  constructor
  · rintro ⟨other, valid, found, usable, rfl, rfl⟩
    exact ⟨valid, usable⟩
  · rintro ⟨valid, usable⟩
    exact ⟨d, valid, types, usable, rfl, rfl⟩

theorem accepted?_of_expressions {value : JsonValue} {d : Descriptor} {t : Text}
    (valid : validate value = some d) (only : d.expressions = [t]) :
    accepted? validate value = (widened? (some t)).map fun u => (d, [u]) := by
  rw [accepted?, valid, Option.bind_some, Descriptor.types?, only, List.mapM_cons, List.mapM_nil]
  cases widened? (some t) with
  | none => rfl
  | some u => rfl

theorem entryReadable_of_accepted {value : JsonValue} {accepted : Descriptor × List UnionType}
    (given : accepted? validate value = some accepted) : entryReadable (validate value) = true := by
  obtain ⟨valid, spelled⟩ := (accepted?_eq_some_iff validate value accepted.1 accepted.2).mp given
  rw [valid]
  exact Descriptor.isReadable_of_types? ((accepted.1.types?_eq_some_iff accepted.2).mpr spelled)

theorem entryRegistrations_validate (value : JsonValue) :
    entryRegistrations (validate value) =
      ((accepted? validate value).map registrationsOf).getD [] := by
  rw [accepted?, entryRegistrations]
  cases validate value with
  | none => rfl
  | some d =>
      rw [Option.map_some, Option.getD_some, Option.bind_some, Descriptor.registrations]
      cases d.types? with
      | none => rfl
      | some types => rfl

theorem entryUsable_validate (value : JsonValue) :
    entryUsable (validate value) = (accepted? validate value).isSome := by
  rw [accepted?, entryUsable]
  cases validate value with
  | none => rfl
  | some d => rw [Option.bind_some, Option.bind_some, Option.isSome_map]

theorem flatMap_entryRegistrations (hooks : List JsonValue) :
    (hooks.map validate).flatMap entryRegistrations =
      (hooks.filterMap (accepted? validate)).flatMap registrationsOf := by
  induction hooks with
  | nil => rfl
  | cons value hooks ih =>
      rw [List.map_cons, List.flatMap_cons, ih, entryRegistrations_validate, List.filterMap_cons]
      cases accepted? validate value with
      | none => rfl
      | some accepted => rfl

theorem countP_entryUsable (hooks : List JsonValue) :
    (hooks.map validate).countP entryUsable =
      (hooks.filterMap (accepted? validate)).length := by
  rw [List.countP_map, List.length_filterMap_eq_countP]
  exact List.countP_congr fun value _ => by simp [entryUsable_validate]

/-- Loading is the run of the registrations of the accepted values that it reaches. -/
theorem loadHooks_reached (source : Text) (r : Registry) (hooks : List JsonValue) :
    (loadHooks validate source r hooks).registry = r.announceAll
        (((reached validate hooks).filterMap (accepted? validate)).flatMap registrationsOf) ∧
      (loadHooks validate source r hooks).count =
        ((reached validate hooks).filterMap (accepted? validate)).length ∧
      ((loadHooks validate source r hooks).fault = none ↔ reached validate hooks = hooks) := by
  obtain ⟨registry, count, fault⟩ := loadHooks_spec validate source r hooks
  have entries : (hooks.map validate).takeWhile entryReadable =
      (reached validate hooks).map validate := List.takeWhile_map
  rw [registry, count, fault, entries, flatMap_entryRegistrations, countP_entryUsable, reached,
    List.takeWhile_eq_self_iff, List.forall_mem_map]
  exact ⟨rfl, rfl, Iff.rfl⟩

theorem reached_of_short {hooks : List JsonValue} (short : ShortIntegers validate hooks) :
    reached validate hooks = hooks := by
  rw [reached, List.takeWhile_eq_self_iff]
  intro value listed
  cases found : validate value with
  | none => rfl
  | some d => exact (short value listed d found).isReadable

/-- Without an integer that is too long all values are reached. -/
theorem loadHooks_accepted (source : Text) (r : Registry) {hooks : List JsonValue}
    (short : ShortIntegers validate hooks) :
    (loadHooks validate source r hooks).registry =
        r.announceAll ((hooks.filterMap (accepted? validate)).flatMap registrationsOf) ∧
      (loadHooks validate source r hooks).count =
        (hooks.filterMap (accepted? validate)).length ∧
      (loadHooks validate source r hooks).fault = none := by
  have all := reached_of_short validate short
  obtain ⟨registry, count, fault⟩ := loadHooks_reached validate source r hooks
  rw [all] at registry count
  exact ⟨registry, count, fault.mpr all⟩

/-- The other fields of a document do not matter. -/
theorem load_of_field? {fields : List (Text × JsonValue)} {hooks : List JsonValue}
    (given : JsonValue.field? "hooks".toList fields = some (.array hooks)) (source : Text)
    (r : Registry) :
    (ofJson validate (.object fields)).load source r = loadHooks validate source r hooks := by
  have alone : JsonValue.field? "hooks".toList [("hooks".toList, .array hooks)] =
      some (.array hooks) := by
    simp [JsonValue.field?]
  rw [loadHooks, ofJson, ofJson, given, alone]

end Corpus

open Corpus (accepted? loadHooks registrationsOf)

/-- Loading registers each accepted value as a whole, in order, and nothing of any other; it gives
their number. So values that are not accepted may be put in or left out anywhere, and a document can
be loaded in two parts. -/
theorem loading_is_all_or_nothing (validate : JsonValue → Option Descriptor) (source : Text)
    (r : Registry) (hooks : List JsonValue) (short : Corpus.ShortIntegers validate hooks) :
    (∀ value d types, accepted? validate value = some (d, types) ↔ validate value = some d ∧
      List.Forall₂ (fun t u => normalize (some t) = .ok (some u)) d.expressions types) ∧
    (∀ fields, JsonValue.field? "hooks".toList fields = some (.array hooks) →
      (Corpus.ofJson validate (.object fields)).load source r =
        loadHooks validate source r hooks) ∧
    (loadHooks validate source r hooks).registry =
      r.announceAll ((hooks.filterMap (accepted? validate)).flatMap registrationsOf) ∧
    (loadHooks validate source r hooks).count = (hooks.filterMap (accepted? validate)).length ∧
    (loadHooks validate source r hooks).fault = none ∧
    (∀ others, Corpus.ShortIntegers validate others →
      others.filterMap (accepted? validate) = hooks.filterMap (accepted? validate) →
      (loadHooks validate source r others).registry =
        (loadHooks validate source r hooks).registry ∧
      (loadHooks validate source r others).count = (loadHooks validate source r hooks).count) ∧
    (∀ front back, hooks = front ++ back →
      (loadHooks validate source r hooks).registry =
        (loadHooks validate source (loadHooks validate source r front).registry back).registry ∧
      (loadHooks validate source r hooks).count =
        (loadHooks validate source r front).count +
          (loadHooks validate source
            (loadHooks validate source r front).registry back).count) := by
  obtain ⟨registry, count, fault⟩ := Corpus.loadHooks_accepted validate source r short
  refine ⟨Corpus.accepted?_eq_some_iff validate,
    fun fields given => Corpus.load_of_field? validate given source r, registry, count, fault,
    ?_, ?_⟩
  · intro others shortOthers same
    obtain ⟨registry', count', -⟩ := Corpus.loadHooks_accepted validate source r shortOthers
    rw [registry', count', same, registry, count]
    exact ⟨rfl, rfl⟩
  · rintro front back rfl
    obtain ⟨shortFront, shortBack⟩ := List.forall_mem_append.mp short
    obtain ⟨registryFront, countFront, -⟩ :=
      Corpus.loadHooks_accepted validate source r shortFront
    obtain ⟨registryBack, countBack, -⟩ := Corpus.loadHooks_accepted validate source
      (loadHooks validate source r front).registry shortBack
    rw [registry, count, registryBack, countBack, registryFront, countFront, List.filterMap_append,
      List.flatMap_append, Registry.announceAll_append, List.length_append]
    exact ⟨rfl, rfl⟩

section Example

/-- A hook with a second name and a parameter. -/
def twinHook : JsonValue :=
  .object [("name".toList, .string "good".toList), ("type".toList, .string "action".toList),
    ("aliases".toList, .array [.string "twin".toList]),
    ("doc".toList, .object [("tags".toList, .array [Corpus.typeTag integer])])]

def twinDescriptor : Descriptor :=
  ⟨"good".toList, .action, none, ["twin".toList], [], [],
    [⟨"param".toList, [], some [integer.text]⟩]⟩

/-- No descriptor, a hook whose type is stray, and the one with two names. -/
def mixedHooks : List JsonValue :=
  [.null, Corpus.typesHook "bad".toList .action [stray], twinHook]

theorem ofJson?_twinHook : Descriptor.ofJson? twinHook = some twinDescriptor := rfl

theorem expressions_twinDescriptor : twinDescriptor.expressions = [integer.text] := by
  decide

theorem expressions_stray (hook : Text) (kind : HookKind) :
    (Corpus.typesDescriptor hook kind [stray]).expressions = [stray.text] :=
  Corpus.expressions_typesDescriptor hook kind (List.forall_mem_singleton.mpr (by decide))

theorem accepted_mixedHooks :
    mixedHooks.filterMap (accepted? Descriptor.ofJson?) = [(twinDescriptor, [integer])] := by
  have nothing : accepted? Descriptor.ofJson? .null = none := rfl
  have bad := Corpus.accepted?_of_expressions Descriptor.ofJson?
    (Corpus.ofJson?_typesHook "bad".toList .action [stray]) (expressions_stray _ _)
  rw [widened?_stray, Option.map_none] at bad
  have good := Corpus.accepted?_of_expressions Descriptor.ofJson? ofJson?_twinHook
    expressions_twinDescriptor
  rw [widened?_integer, Option.map_some] at good
  simp only [mixedHooks, List.filterMap_cons, nothing, bad, good, List.filterMap_nil]

theorem shortIntegers_of_integer {d : Descriptor} (only : d.expressions = [integer.text]) :
    d.ShortIntegers := by
  intro t listed tokens lexed
  rw [only, List.mem_singleton] at listed
  rw [listed, tokens_integer, Except.ok.injEq] at lexed
  rw [← lexed, List.forall_mem_singleton]
  decide

theorem short_mixedHooks : Corpus.ShortIntegers Descriptor.ofJson? mixedHooks := by
  rw [Corpus.ShortIntegers, mixedHooks, List.forall_mem_cons, List.forall_mem_cons,
    List.forall_mem_singleton, Corpus.ofJson?_typesHook, ofJson?_twinHook]
  refine ⟨?_, ?_, ?_⟩
  · rintro d ⟨⟩
  · rintro d ⟨⟩ t listed tokens lexed
    rw [expressions_stray, List.mem_singleton] at listed
    rw [listed, tokens_stray] at lexed
    cases lexed
  · rintro d ⟨⟩
    exact shortIntegers_of_integer expressions_twinDescriptor

/-- Only the hook with two names is registered, under both. -/
theorem loading_mixedHooks :
    (loadHooks Descriptor.ofJson? [] .empty mixedHooks).registry.entries =
      [("good".toList, ⟨.action, [integer]⟩), ("twin".toList, ⟨.action, [integer]⟩)] ∧
    (loadHooks Descriptor.ofJson? [] .empty mixedHooks).count = 1 ∧
    (loadHooks Descriptor.ofJson? [] .empty mixedHooks).fault = none := by
  obtain ⟨-, -, registry, count, fault, -⟩ :=
    loading_is_all_or_nothing _ [] .empty mixedHooks short_mixedHooks
  rw [registry, count, accepted_mixedHooks]
  exact ⟨rfl, rfl, fault⟩

end Example

end PhpHooks
