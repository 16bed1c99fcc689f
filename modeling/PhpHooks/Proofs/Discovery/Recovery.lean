import PhpHooks.Corpus.Loading
import PhpHooks.Discovery.DocComments
import PhpHooks.Proofs.DocBlock.PrintedTypes
import PhpHooks.Proofs.RegistryRuns

set_option autoImplicit false

/-!
Types that are documented in their own notation are recovered. A comment before a call and a
descriptor of a corpus give the same types, which are the documented ones without their literals.
-/
namespace PhpHooks

/-- A type that has been read and whose text can stand in a parameter line. -/
structure UnionType.Documentable (u : UnionType) : Prop where
  parsed : ∃ t, TypeExpr.parse t = .ok u
  noString : ∀ a ∈ u.atoms, ∀ value, a ≠ .literal (.string value)
  noFloat : ∀ a ∈ u.atoms, ∀ x, a ≠ .literal (.float x)
  plainKeys : ∀ a ∈ u.atoms, ∀ item ∈ a.items, Lexeme.PlainKey item.key
  single : ∀ a ∈ u.atoms, ∀ r ∈ a.result?, r.length = 1
  noThis : Text.startsWith u.text "$this".toList = false

/-- A formed type with results of one member each is read from its own text. -/
theorem UnionType.parse_text_of_formed {u : UnionType} (formed : u.Formed)
    (printable : u.Everywhere AtomicType.Printable)
    (single : ∀ a ∈ u.atoms, ∀ r ∈ a.result?, r.length = 1) :
    TypeExpr.parse u.text = .ok u := by
  have again := TypeExpr.parse_of_spells (TypeExpr.spells_text formed printable)
  rwa [UnionType.hoist_of_single formed single] at again

namespace UnionType.Documentable

variable {u : UnionType}

/-- A formed type has been read if it can be read from its own text. -/
theorem of_formed (formed : u.Formed)
    (noString : ∀ a ∈ u.atoms, ∀ value, a ≠ .literal (.string value))
    (noFloat : ∀ a ∈ u.atoms, ∀ x, a ≠ .literal (.float x))
    (plainKeys : ∀ a ∈ u.atoms, ∀ item ∈ a.items, Lexeme.PlainKey item.key)
    (single : ∀ a ∈ u.atoms, ∀ r ∈ a.result?, r.length = 1)
    (noThis : Text.startsWith u.text "$this".toList = false) : u.Documentable := by
  have parsed := UnionType.parse_text_of_formed formed (fun a inside =>
    ⟨formed.2 a inside, noFloat a inside, plainKeys a inside⟩) single
  exact ⟨⟨_, parsed⟩, noString, noFloat, plainKeys, single, noThis⟩

theorem formed (documentable : u.Documentable) : u.Formed := by
  obtain ⟨t, parsed⟩ := documentable.parsed
  exact TypeExpr.formed_of_parse parsed

theorem everywhere (documentable : u.Documentable) : u.Everywhere AtomicType.Documentable :=
  fun a inside => ⟨⟨documentable.formed.2 a inside, documentable.noFloat a inside,
    documentable.plainKeys a inside⟩, documentable.noString a inside⟩

theorem written (documentable : u.Documentable) : Written u.text :=
  UnionType.written_text documentable.formed.1 documentable.everywhere
    fun a _ => AtomicType.written_text a

theorem typeText (documentable : u.Documentable) : ParamTag.TypeText u.text :=
  documentable.written.typeText documentable.noThis

theorem parse_text (documentable : u.Documentable) : TypeExpr.parse u.text = .ok u := by
  apply UnionType.parse_text_of_formed documentable.formed ?_ documentable.single
  exact fun a inside => (documentable.everywhere a inside).toPrintable

theorem ofText_text (documentable : u.Documentable) :
    TypeReading.ofText (some u.text) = .usable u.widen := by
  have ink : Text.allBlank u.text = false := by
    obtain ⟨c, first, blank, -⟩ := documentable.written.begins
    exact List.all_eq_false.mpr ⟨c, List.mem_of_head? first, by simp [blank]⟩
  simp only [TypeReading.ofText, ink, Bool.false_eq_true, ↓reduceIte, TypeExpr.parse?_boundless,
    documentable.parse_text]

end UnionType.Documentable

theorem ofDescription?_nil : ArrayShape.ofDescription? [] = none := by decide

namespace DocComments

open UnionType (Documentable)

variable {us : List UnionType}

/-- A parameter without a description documents the type it shows. -/
theorem paramText_of_plain (type parameter : Option Text) :
    paramText ⟨type, parameter, []⟩ = type := by
  unfold paramText
  split
  · rw [ofDescription?_nil]
    rfl
  · rfl

theorem paramTypes_texts (documentable : ∀ u ∈ us, u.Documentable) (parameter : Option Text) :
    paramTypes (us.map fun u => ⟨some u.text, parameter, []⟩) =
      ([], .ok (us.map UnionType.widen)) := by
  induction us with
  | nil => rfl
  | cons u rest ih =>
      rw [List.forall_mem_cons] at documentable
      have usable := documentable.1.ofText_text
      simp only [List.map_cons, paramTypes, paramText_of_plain, usable, ih documentable.2]
      rfl

/-- The comment that documents these types in order. -/
def typesComment (us : List UnionType) : Text :=
  DocBlock.paramComment (us.map UnionType.text)

theorem typesComment_ne_nil (us : List UnionType) : typesComment us ≠ [] := by
  rw [typesComment, DocBlock.paramComment_eq, DocBlock.starred_eq]
  simp

theorem examine_typesComment {ε : Type} {call : Call ε} {kind : HookKind} {hook : Text}
    (invocation : FunctionName.invocation? call.function = some kind)
    (named : call.hook? = some hook) (filled : us ≠ [])
    (documentable : ∀ u ∈ us, u.Documentable) :
    examine call (typesComment us) = ([], .ok (some ⟨hook, kind, us.map UnionType.widen⟩)) := by
  have each : ∀ t ∈ us.map UnionType.text, ParamTag.TypeText t :=
    List.forall_mem_map.mpr fun u listed => (documentable u listed).typeText
  obtain ⟨block, parsed, params⟩ := DocBlock.parse_paramComment each
  have types := paramTypes_texts documentable (some "$p".toList)
  rw [List.map_map] at params
  obtain ⟨u, rest, rfl⟩ := List.exists_cons_of_ne_nil filled
  simp only [examine, invocation, named, typesComment, parsed, params, Function.comp_def, types]
  rfl

/-- Visits of calls that invoke a hook of this kind and name. -/
def Invokes {ε : Type} (visit : Visit ε) (kind : HookKind) (hook : Text) : Prop :=
  visit.tag = .call ∧ ∃ call, visit.call = some call ∧
    FunctionName.invocation? call.function = some kind ∧ call.hook? = some hook

theorem pendingAt_own {ε : Type} {visit : Visit ε} {doc : Text} (call : visit.tag = .call)
    (own : visit.doc = some doc) (filled : doc ≠ []) (pending : Option Text) :
    pendingAt pending visit = some doc := by
  have inked : doc.isEmpty = false := by simpa using filled
  simp [pendingAt, own, call, inked, carries]

theorem find?_put (hook : DocumentedHook) (hooks : List DocumentedHook) :
    (put hook hooks).find? (fun other => other.name == hook.name) = some hook := by
  induction hooks with
  | nil => simp [put]
  | cons other rest ih =>
      rw [put]
      split
      · simp
      · next different => rw [List.find?_cons_of_neg (by simpa using different), ih]

/-- Visiting the call collects the types for its hook, whatever was collected before. -/
theorem step_typesComment {ε : Type} {visit : Visit ε} {kind : HookKind} {hook : Text}
    (invokes : Invokes visit kind hook) (commented : visit.doc = some (typesComment us))
    (filled : us ≠ []) (documentable : ∀ u ∈ us, u.Documentable) (s : State) :
    step s visit = (⟨none, put ⟨hook, kind, us.map UnionType.widen⟩ s.hooks⟩, [], none) := by
  obtain ⟨tag, call, called, invocation, named⟩ := invokes
  have pending := pendingAt_own tag commented (typesComment_ne_nil us) s.pending
  simp only [step, pending, tag, called, examine_typesComment invocation named filled documentable]

end DocComments

namespace Corpus

open UnionType (Documentable)

variable {us : List UnionType}

/-- A parameter tag that gives a type and says nothing else. -/
def typeTag (u : UnionType) : JsonValue :=
  .object [("name".toList, .string "param".toList), ("content".toList, .string []),
    ("types".toList, .array [.string u.text])]

/-- A hook with a parameter tag for each type. -/
def typesHook (hook : Text) (kind : HookKind) (us : List UnionType) : JsonValue :=
  .object [("name".toList, .string hook), ("type".toList, .string kind.name),
    ("doc".toList, .object [("tags".toList, .array (us.map typeTag))])]

def typesDescriptor (hook : Text) (kind : HookKind) (us : List UnionType) : Descriptor :=
  ⟨hook, kind, none, [], [], [], us.map fun u => ⟨"param".toList, [], some [u.text]⟩⟩

theorem mapM_tag? (us : List UnionType) :
    (us.map typeTag).mapM Descriptor.tag? =
      some (us.map fun u => ⟨"param".toList, [], some [u.text]⟩) := by
  induction us with
  | nil => rfl
  | cons u rest ih =>
      rw [List.map_cons, List.mapM_cons, ih]
      rfl

theorem ofName?_name (kind : HookKind) : HookKind.ofName? kind.name = some kind := by
  cases kind <;> decide

theorem doc?_typeTags (us : List UnionType) :
    Descriptor.doc? (.object [("tags".toList, .array (us.map typeTag))]) =
      some ([], [], us.map fun u => ⟨"param".toList, [], some [u.text]⟩) := by
  have read : Descriptor.doc? (.object [("tags".toList, .array (us.map typeTag))]) =
      ((us.map typeTag).mapM Descriptor.tag?).bind fun tags => some ([], [], tags) := rfl
  rw [read, mapM_tag?]
  rfl

theorem ofJson?_typesHook (hook : Text) (kind : HookKind) (us : List UnionType) :
    Descriptor.ofJson? (typesHook hook kind us) = some (typesDescriptor hook kind us) := by
  have read : Descriptor.ofJson? (typesHook hook kind us) =
      (HookKind.ofName? kind.name).bind fun kind =>
        (Descriptor.doc? (.object [("tags".toList, .array (us.map typeTag))])).bind fun doc =>
          some ⟨hook, kind, none, [], doc.1, doc.2.1, doc.2.2⟩ := rfl
  rw [read, ofName?_name, doc?_typeTags]
  rfl

theorem expressions_typesDescriptor (hook : Text) (kind : HookKind)
    (filled : ∀ u ∈ us, u.text ≠ []) :
    (typesDescriptor hook kind us).expressions = us.map UnionType.text := by
  have each : ∀ u : UnionType,
      Descriptor.tagExpression ⟨"param".toList, [], some [u.text]⟩ = u.text := by
    intro u
    unfold Descriptor.tagExpression
    simp only [ofDescription?_nil, ite_self, Option.getD_some, Text.joined_singleton]
  have kept : ∀ t ∈ us.map UnionType.text, (!t.isEmpty) = true := by
    rw [List.forall_mem_map]
    intro u listed
    simpa using filled u listed
  have tags : (typesDescriptor hook kind us).tags.filter (fun tag => tag.name == "param".toList) =
      (typesDescriptor hook kind us).tags := by
    rw [List.filter_eq_self]
    exact List.forall_mem_map.mpr fun u _ => beq_self_eq_true _
  rw [Descriptor.expressions, tags, typesDescriptor, List.map_map]
  simp only [Function.comp_def, each]
  exact List.filter_eq_self.mpr kept

theorem readTypes_texts (documentable : ∀ u ∈ us, u.Documentable) :
    readTypes (us.map UnionType.text) = ([], .ok (us.map UnionType.widen)) := by
  induction us with
  | nil => rfl
  | cons u rest ih =>
      rw [List.forall_mem_cons] at documentable
      simp only [List.map_cons, readTypes, documentable.1.ofText_text, ih documentable.2]
      rfl

/-- Loading the hook registers the types under a name that is not known yet. -/
theorem loadHooks_typesHook {validate : JsonValue → Option Descriptor} {hook : Text}
    {kind : HookKind} {r : Registry} (documentable : ∀ u ∈ us, u.Documentable)
    (valid : validate (typesHook hook kind us) = some (typesDescriptor hook kind us))
    (fresh : r.get? hook = none) (source : Text) :
    (loadHooks validate source r [typesHook hook kind us]).fault = none ∧
      (loadHooks validate source r [typesHook hook kind us]).registry.get? hook =
        some ⟨kind, us.map UnionType.widen⟩ := by
  have entries : loadHooks validate source r [typesHook hook kind us] =
      loadEntries source [validate (typesHook hook kind us)] r := rfl
  have stored : (r.register hook kind ((us.map UnionType.widen).map some)).1.get? hook =
      some ⟨kind, us.map UnionType.widen⟩ := by
    rw [Registry.get?_register, if_pos rfl, Registry.merged, fresh]
    simp
  have expressions := expressions_typesDescriptor hook kind fun u listed =>
    (documentable u listed).written.ne_nil
  rw [entries, valid, loadEntries]
  simp only [expressions, readTypes_texts documentable, List.length_map, beq_self_eq_true,
    ↓reduceIte]
  exact ⟨rfl, stored⟩

end Corpus

open Corpus (loadHooks typesDescriptor typesHook)
open DocComments (Invokes typesComment)

section Example

/-- A callable whose result is a shape, or nothing. -/
def callbackOrNull : UnionType :=
  [.callable [[.named "int".toList []]]
    (some [.shape "array".toList [⟨"size".toList, [.named "\\Foo".toList []], true⟩]]),
    .named "null".toList []]

theorem atoms_callbackOrNull : callbackOrNull.atoms =
    [.callable [[.named "int".toList []]]
      (some [.shape "array".toList [⟨"size".toList, [.named "\\Foo".toList []], true⟩]]),
      .named "int".toList [],
      .shape "array".toList [⟨"size".toList, [.named "\\Foo".toList []], true⟩],
      .named "\\Foo".toList [], .named "null".toList []] := rfl

theorem formed_callbackOrNull : callbackOrNull.Formed := by
  have name : ∀ name ∈ ["int".toList, "\\Foo".toList, "null".toList],
      (AtomicType.named name []).Formed := by
    simp only [List.forall_mem_cons, AtomicType.Formed]
    refine ⟨⟨rfl, by decide, by decide, by simp⟩, ⟨rfl, by decide, by decide, by simp⟩,
      ⟨rfl, by decide, by decide, by simp⟩, by simp⟩
  simp only [List.forall_mem_cons] at name
  obtain ⟨int, foo, null, -⟩ := name
  refine ⟨⟨by simp [callbackOrNull], ?_⟩, ?_⟩
  · rw [UnionType.Distinct, callbackOrNull, List.pairwise_cons]
    exact ⟨List.forall_mem_singleton.mpr rfl, List.pairwise_singleton _ _⟩
  · rw [UnionType.Everywhere, atoms_callbackOrNull]
    simp only [List.forall_mem_cons]
    refine ⟨?_, int, ?_, foo, null, by simp⟩
    · exact ⟨List.forall_mem_singleton.mpr (UnionType.proper_singleton _),
        fun r result => Option.mem_some_iff.mp result ▸ UnionType.proper_singleton _⟩
    · exact ⟨by decide, List.forall_mem_singleton.mpr (UnionType.proper_singleton _)⟩

theorem documentable_callbackOrNull : callbackOrNull.Documentable := by
  have plain : Lexeme.PlainKey "size".toList := ⟨.name, Or.inl rfl, by decide⟩
  apply UnionType.Documentable.of_formed formed_callbackOrNull
  · simp [atoms_callbackOrNull]
  · simp [atoms_callbackOrNull]
  · simpa [atoms_callbackOrNull, AtomicType.items] using plain
  · simp [atoms_callbackOrNull, AtomicType.result?]
  · decide

/-- A literal, which is widened. -/
def minusOne : UnionType := [.literal (.int (-1))]

theorem documentable_minusOne : minusOne.Documentable := by
  have short : (AtomicType.literal (.int (-1))).Formed := Nat.one_lt_pow (by decide) (by decide)
  have atoms : minusOne.atoms = [.literal (.int (-1))] := rfl
  have formed : minusOne.Formed := UnionType.formed_literal short
  apply UnionType.Documentable.of_formed formed
  · simp [atoms]
  · simp [atoms]
  · simp [atoms, AtomicType.items]
  · simp [atoms, AtomicType.result?]
  · decide

/-- A call that runs the action `x`, with the types in the comment before it. -/
def commentedAction (us : List UnionType) : Visit Unit :=
  ⟨.call, "function_call_expression".toList, none, some (typesComment us),
    some ⟨some "do_action".toList, [⟨none, [], none, false, some "x".toList, none⟩], none⟩⟩

end Example

/-- Documentation in the notation of types gives the widened types in order: the visit of a call
with a comment collects them for its hook, and a document registers them under a new name. All that
this takes of the validation is that it lets the hook through, which `Descriptor.ofJson?` does. -/
theorem types_recovered {ε : Type} (us : List UnionType) (filled : us ≠ [])
    (documentable : ∀ u ∈ us, u.Documentable) (hook : Text) (kind : HookKind) :
    (∀ (visit : Visit ε) (s : DocComments.State), Invokes visit kind hook →
      visit.doc = some (typesComment us) →
      DocComments.step s visit =
        (⟨none, DocComments.put ⟨hook, kind, us.map UnionType.widen⟩ s.hooks⟩, [], none) ∧
      (DocComments.put ⟨hook, kind, us.map UnionType.widen⟩ s.hooks).find?
        (fun other => other.name == hook) = some ⟨hook, kind, us.map UnionType.widen⟩) ∧
    (∀ (validate : JsonValue → Option Descriptor) (source : Text) (r : Registry),
      validate (typesHook hook kind us) = some (typesDescriptor hook kind us) →
      r.get? hook = none →
      (loadHooks validate source r [typesHook hook kind us]).fault = none ∧
      (loadHooks validate source r [typesHook hook kind us]).registry.get? hook =
        some ⟨kind, us.map UnionType.widen⟩) ∧
    Descriptor.ofJson? (typesHook hook kind us) = some (typesDescriptor hook kind us) := by
  refine ⟨?_, ?_, Corpus.ofJson?_typesHook hook kind us⟩
  · intro visit s invokes commented
    exact ⟨DocComments.step_typesComment invokes commented filled documentable s,
      DocComments.find?_put ⟨hook, kind, us.map UnionType.widen⟩ s.hooks⟩
  · intro validate source r valid fresh
    exact Corpus.loadHooks_typesHook documentable valid fresh source

theorem types_recovered_callbackOrNull :
    typesComment [callbackOrNull, minusOne] =
      ("/**\n * @param callable(int): array\x7bsize?: \\Foo\x7d|null $p\n" ++
        " * @param -1 $p\n */").toList ∧
    DocComments.step .initial (commentedAction [callbackOrNull, minusOne]) =
      (⟨none, [⟨"x".toList, .action, [callbackOrNull, [.named "int".toList []]]⟩]⟩, [], none) ∧
    (loadHooks Descriptor.ofJson? [] .empty
      [typesHook "x".toList .action [callbackOrNull, minusOne]]).registry.get? "x".toList =
        some ⟨.action, [callbackOrNull, [.named "int".toList []]]⟩ := by
  have each : ∀ u ∈ [callbackOrNull, minusOne], u.Documentable := by
    rw [List.forall_mem_cons, List.forall_mem_singleton]
    exact ⟨documentable_callbackOrNull, documentable_minusOne⟩
  obtain ⟨visits, documents, valid⟩ := types_recovered (ε := Unit) [callbackOrNull, minusOne]
    (by simp) each "x".toList .action
  have invokes : Invokes (commentedAction [callbackOrNull, minusOne]) .action "x".toList :=
    ⟨rfl, _, rfl, by decide, rfl⟩
  have visited := visits (commentedAction [callbackOrNull, minusOne]) .initial invokes rfl
  exact ⟨by decide, visited.1, (documents _ [] .empty valid rfl).2⟩

end PhpHooks
