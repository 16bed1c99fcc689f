import Mathlib.Data.List.Induction
import PhpHooks.Proofs.Discovery.MalformedTypes

set_option autoImplicit false

/-!
The search for documented hooks looks at two nodes only. Whatever came before, a call is examined
with its own comment, or else with the one of the return, the variable or the output right in
front of it. Of the hooks that the calls document, the first of a name gives its place and the
last one its kind and its types.
-/
namespace PhpHooks

/-- The comment in front of a node, unless it is empty. -/
def Visit.comment? {ε : Type} (visit : Visit ε) : Option Text :=
  visit.doc.filter fun doc => !doc.isEmpty

namespace DocComments

variable {ε : Type}

/-- The comment that a node leaves for a call right behind it. -/
def left? (visit : Visit ε) : Option Text :=
  match visit.tag with
  | .returning | .variableName | .output => visit.comment?
  | .call | .other => none

def stateAfter (s : State) (visits : List (Visit ε)) : State :=
  visits.foldl (fun s visit => (step s visit).1) s

/-- The call that a visit examines in a state, and the comment with which it does so. -/
def examined? (s : State) (visit : Visit ε) : Option (Call ε × Text) :=
  match pendingAt s.pending visit, visit.tag, visit.call with
  | some doc, .call, some call => some (call, doc)
  | _, _, _ => none

def examinedAt? (visits : List (Visit ε)) (i : Nat) : Option (Call ε × Text) :=
  visits[i]?.bind (examined? (stateAfter .initial (visits.take i)))

/-- The hook that the call at a place documents, if it is examined and documents one. -/
def collectedAt? (visits : List (Visit ε)) (i : Nat) : Option DocumentedHook :=
  (examinedAt? visits i).bind fun found => documented? found.1 found.2

/-- No comment that a call of the stream is examined with makes the examination fail. -/
def Through (visits : List (Visit ε)) : Prop :=
  ∀ i call doc, examinedAt? visits i = some (call, doc) →
    ∃ found, (examine call doc).2 = .ok found

section Steps

variable {s : State} {visit : Visit ε}

theorem pendingAt_eq (pending : Option Text) (visit : Visit ε) :
    pendingAt pending visit =
      (if carries visit.tag then visit.comment? else none).or
        (if visit.tag = .call then pending else none) := by
  unfold pendingAt Visit.comment?
  cases carries visit.tag with
  | true => simp
  | false => simp

theorem pendingAt_call (pending : Option Text) (call : visit.tag = .call) :
    pendingAt pending visit = visit.comment?.or pending := by
  simp [pendingAt_eq, call, carries]

theorem examined?_eq_some_iff {call : Call ε} {doc : Text} :
    examined? s visit = some (call, doc) ↔
      pendingAt s.pending visit = some doc ∧ visit.tag = .call ∧ visit.call = some call := by
  unfold examined?
  constructor
  · intro examines
    split at examines
    · next pending tag called =>
        simp only [Option.some.injEq, Prod.mk.injEq] at examines
        exact ⟨by rw [pending, examines.2], tag, by rw [called, examines.1]⟩
    · cases examines
  · rintro ⟨pending, tag, called⟩
    simp only [pending, tag, called]

/-- A visit without an examination only renews the pending comment. -/
theorem step_of_not_examined (nothing : examined? s visit = none) :
    step s visit = (⟨pendingAt s.pending visit, s.hooks⟩, [], none) := by
  unfold step
  simp only
  split
  · next doc call pending tag called =>
      rw [examined?_eq_some_iff.mpr ⟨pending, tag, called⟩] at nothing
      cases nothing
  · rfl

/-- An examination uses the comment up, whatever it finds. -/
theorem pending_of_examined {call : Call ε} {doc : Text}
    (examines : examined? s visit = some (call, doc)) : (step s visit).1.pending = none := by
  obtain ⟨pending, tag, called⟩ := examined?_eq_some_iff.mp examines
  simp only [step, pending, tag, called]
  split <;> rfl

/-- What an examination answers is what the visit adds. -/
theorem step_of_examined {call : Call ε} {doc : Text} {found : Option DocumentedHook}
    (examines : examined? s visit = some (call, doc)) (ok : (examine call doc).2 = .ok found) :
    (step s visit).1.hooks = (found.map fun hook => put hook s.hooks).getD s.hooks ∧
      (step s visit).2.2 = none := by
  obtain ⟨pending, tag, called⟩ := examined?_eq_some_iff.mp examines
  rcases answered : examine call doc with ⟨events, answer⟩
  rw [answered] at ok
  subst ok
  simp only [step, pending, tag, called, answered]
  cases found with
  | none => exact ⟨rfl, rfl⟩
  | some hook => exact ⟨rfl, rfl⟩

theorem left?_eq_some_iff {doc : Text} :
    left? visit = some doc ↔
      (visit.tag = .returning ∨ visit.tag = .variableName ∨ visit.tag = .output) ∧
        visit.comment? = some doc := by
  unfold left?
  cases visit.tag with
  | _ => simp

/-- A node that is no call carries its own comment on, unless it is of no interest; a call that is
there to be examined leaves none. -/
theorem pending_step (s : State) (carried : visit.call.isSome = true ↔ visit.tag = .call) :
    (step s visit).1.pending = left? visit := by
  rcases examines : examined? s visit with _ | ⟨call, doc⟩
  · rw [step_of_not_examined examines]
    unfold left?
    cases tag : visit.tag with
    | call =>
        obtain ⟨call, called⟩ := Option.isSome_iff_exists.mp (carried.mpr tag)
        cases pending : pendingAt s.pending visit with
        | none => rfl
        | some doc =>
            rw [examined?_eq_some_iff.mpr ⟨pending, tag, called⟩] at examines
            cases examines
    | _ => simp [pendingAt_eq, tag, carries]
  · have call := (examined?_eq_some_iff.mp examines).2.1
    rw [pending_of_examined examines, left?, call]

end Steps

section Neighbours

variable {visits : List (Visit ε)}

/-- Behind a node the pending comment is what that node has left. -/
theorem pending_behind (carried : ∀ visit ∈ visits, visit.call.isSome = true ↔ visit.tag = .call)
    {j : Nat} {before : Visit ε} (here : visits[j]? = some before) :
    (stateAfter .initial (visits.take (j + 1))).pending = left? before := by
  have listed := List.mem_of_getElem? here
  rw [List.take_add_one, here, stateAfter, List.foldl_append]
  exact pending_step _ (carried before listed)

/-- A call is examined with its own comment, or else with the one that the node in front of it has
left. -/
theorem examinedAt?_eq_some_iff
    (carried : ∀ visit ∈ visits, visit.call.isSome = true ↔ visit.tag = .call) {i : Nat}
    {call : Call ε} {doc : Text} :
    examinedAt? visits i = some (call, doc) ↔
      ∃ visit, visits[i]? = some visit ∧ visit.call = some call ∧
        (visit.comment? = some doc ∨ visit.comment? = none ∧
          ∃ j before, i = j + 1 ∧ visits[j]? = some before ∧ left? before = some doc) := by
  rw [examinedAt?, Option.bind_eq_some_iff]
  apply exists_congr
  intro visit
  apply and_congr_right
  intro here
  have listed := List.mem_of_getElem? here
  have tagged : visit.call = some call → visit.tag = .call := by
    intro called
    exact (carried visit listed).mp (by rw [called]; rfl)
  rw [examined?_eq_some_iff]
  constructor
  · rintro ⟨pending, tag, called⟩
    refine ⟨called, ?_⟩
    rw [pendingAt_call _ tag, Option.or_eq_some_iff] at pending
    rcases pending with own | ⟨none, earlier⟩
    · exact Or.inl own
    · refine Or.inr ⟨none, ?_⟩
      cases i with
      | zero => cases earlier
      | succ j =>
          have inside := (List.getElem?_eq_some_iff.mp here).1
          have front : visits[j]? = some visits[j] := List.getElem?_eq_getElem (by omega)
          rw [pending_behind carried front] at earlier
          exact ⟨j, visits[j], rfl, front, earlier⟩
  · rintro ⟨called, comment⟩
    refine ⟨?_, tagged called, called⟩
    rw [pendingAt_call _ (tagged called), Option.or_eq_some_iff]
    rcases comment with own | ⟨none, j, before, rfl, front, earlier⟩
    · exact Or.inl own
    · exact Or.inr ⟨none, by rw [pending_behind carried front, earlier]⟩

end Neighbours

section Record

/-- The hooks with further ones put under their names, in order. -/
def record (hooks found : List DocumentedHook) : List DocumentedHook :=
  found.foldl (fun hooks hook => put hook hooks) hooks

theorem record_concat (found : List DocumentedHook) (hook : DocumentedHook) :
    record [] (found ++ [hook]) = put hook (record [] found) := by
  rw [record, List.foldl_append]
  rfl

theorem map_name_put (hook : DocumentedHook) (hooks : List DocumentedHook) :
    (put hook hooks).map DocumentedHook.name =
      if hook.name ∈ hooks.map DocumentedHook.name then hooks.map DocumentedHook.name
      else hooks.map DocumentedHook.name ++ [hook.name] := by
  induction hooks with
  | nil => rfl
  | cons other rest ih =>
      rw [put]
      by_cases here : other.name = hook.name
      · simp [here]
      · rw [if_neg (by simpa using here), List.map_cons, ih]
        by_cases later : hook.name ∈ rest.map DocumentedHook.name
        · simp [later]
        · simp [later, Ne.symm here]

theorem find?_put_of_ne {hook : DocumentedHook} {name : Text} (other : hook.name ≠ name)
    (hooks : List DocumentedHook) :
    (put hook hooks).find? (fun stored => stored.name == name) =
      hooks.find? fun stored => stored.name == name := by
  induction hooks with
  | nil => simp [put, other]
  | cons first rest ih =>
      rw [put]
      by_cases here : first.name = hook.name
      · simp [here, other]
      · rw [if_neg (by simpa using here), List.find?_cons, List.find?_cons, ih]

/-- The names stand in the order in which they come first. -/
theorem names_record (found : List DocumentedHook) :
    (record [] found).map DocumentedHook.name = (found.map DocumentedHook.name).eraseDups := by
  induction found using List.reverseRecOn with
  | nil => rfl
  | append_singleton found hook ih =>
      rw [record_concat, map_name_put, ih, List.map_append, List.map_singleton,
        Registry.eraseDups_concat]
      simp only [List.mem_eraseDups]

/-- Under a name stands the hook that comes last. -/
theorem find?_record (found : List DocumentedHook) (name : Text) :
    (record [] found).find? (fun hook => hook.name == name) =
      found.reverse.find? fun hook => hook.name == name := by
  induction found using List.reverseRecOn with
  | nil => rfl
  | append_singleton found hook ih =>
      rw [record_concat, List.reverse_append, List.reverse_singleton, List.singleton_append,
        List.find?_cons]
      by_cases same : hook.name = name
      · rw [← same, find?_put, beq_self_eq_true]
      · rw [find?_put_of_ne same, ih, beq_eq_false_iff_ne.mpr same]

end Record

section Runs

variable {visits : List (Visit ε)}

/-- An examination that goes through finds what the call and the comment document. -/
theorem eq_documented?_of_examine {call : Call ε} {doc : Text} {found : Option DocumentedHook}
    (ok : (examine call doc).2 = .ok found) : found = documented? call doc := by
  cases readable : docReadable doc with
  | true =>
      obtain ⟨events, answered⟩ := examine_of_docReadable call readable
      rw [answered] at ok
      exact (Except.ok.inj ok).symm
  | false =>
      cases invocation : FunctionName.invocation? call.function with
      | none =>
          simp only [examine, invocation, Except.ok.injEq] at ok
          simp only [documented?, invocation, ← ok]
      | some kind =>
          cases named : call.hook? with
          | none =>
              simp only [examine, invocation, named, Except.ok.injEq] at ok
              simp only [documented?, invocation, named, ← ok]
          | some hook =>
              obtain ⟨events, cause, refused⟩ :=
                examine_of_not_docReadable invocation named readable
              rw [refused] at ok
              cases ok

/-- A visit adds the hook of its place and does not fail. -/
theorem step_at (through : Through visits) {i : Nat} {visit : Visit ε}
    (here : visits[i]? = some visit) :
    (step (stateAfter .initial (visits.take i)) visit).1.hooks =
        record (stateAfter .initial (visits.take i)).hooks (collectedAt? visits i).toList ∧
      (step (stateAfter .initial (visits.take i)) visit).2.2 = none := by
  have place : examinedAt? visits i = examined? (stateAfter .initial (visits.take i)) visit := by
    rw [examinedAt?, here, Option.bind_some]
  rw [collectedAt?]
  cases examines : examinedAt? visits i with
  | none =>
      rw [step_of_not_examined (place ▸ examines)]
      exact ⟨rfl, rfl⟩
  | some pair =>
      obtain ⟨call, doc⟩ := pair
      obtain ⟨found, ok⟩ := through i call doc examines
      obtain ⟨hooks, fault⟩ := step_of_examined (place ▸ examines) ok
      refine ⟨?_, fault⟩
      rw [hooks, eq_documented?_of_examine ok, Option.bind_some]
      cases documented? call doc with
      | none => rfl
      | some hook => rfl

/-- The hooks after part of the stream are those of its places. -/
theorem hooks_stateAfter (through : Through visits) {n : Nat} (part : n ≤ visits.length) :
    (stateAfter .initial (visits.take n)).hooks =
      record [] ((List.range n).filterMap (collectedAt? visits)) := by
  induction n with
  | zero => rfl
  | succ n ih =>
      have here : visits[n]? = some visits[n] := List.getElem?_eq_getElem (by omega)
      have last : (stateAfter .initial (visits.take (n + 1))).hooks =
          (step (stateAfter .initial (visits.take n)) visits[n]).1.hooks := by
        rw [List.take_add_one, here, stateAfter, List.foldl_append]
        rfl
      have alone : [n].filterMap (collectedAt? visits) = (collectedAt? visits n).toList := by
        rw [List.filterMap_cons]
        cases collectedAt? visits n <;> rfl
      rw [last, (step_at through here).1, ih (by omega), List.range_succ, List.filterMap_append,
        alone, record, record, record, List.foldl_append]

theorem collectFrom_eq_ok (s : State) (visits : List (Visit ε))
    (faultless : ∀ i visit, visits[i]? = some visit →
      (step (stateAfter s (visits.take i)) visit).2.2 = none) :
    (collectFrom s visits).2 = .ok (stateAfter s visits).hooks := by
  induction visits generalizing s with
  | nil => rfl
  | cons visit rest ih =>
      have first : (step s visit).2.2 = none := faultless 0 visit rfl
      have later := ih (step s visit).1 fun i other here => faultless (i + 1) other here
      rcases stepped : step s visit with ⟨next, events, fault⟩
      rw [stepped] at first later
      subst first
      simp only [collectFrom, stepped]
      rw [later, stateAfter, stateAfter, List.foldl_cons, stepped]

end Runs

/-- A stream goes through if the comments of its nodes are readable. -/
theorem through_of_docReadable {visits : List (Visit ε)}
    (carried : ∀ visit ∈ visits, visit.call.isSome = true ↔ visit.tag = .call)
    (readable : ∀ visit ∈ visits, ∀ doc ∈ visit.doc, docReadable doc = true) :
    Through visits := by
  have own : ∀ visit ∈ visits, ∀ doc, visit.comment? = some doc → docReadable doc = true := by
    intro visit listed doc comment
    exact readable visit listed doc (Option.filter_eq_some_iff.mp comment).1
  intro i call doc examines
  have short : docReadable doc = true := by
    obtain ⟨visit, here, -, comment | ⟨-, j, before, -, front, earlier⟩⟩ :=
      (examinedAt?_eq_some_iff carried).mp examines
    · exact own visit (List.mem_of_getElem? here) doc comment
    · exact own before (List.mem_of_getElem? front) doc (left?_eq_some_iff.mp earlier).2
  obtain ⟨events, answered⟩ := examine_of_docReadable call short
  exact ⟨documented? call doc, by rw [answered]⟩

/-- Which calls document a hook: those that invoke it by a literal name, with a comment that can be
parsed and documents a parameter. There is one type for each parameter, in order. -/
theorem documented?_eq_some_iff {call : Call ε} {doc : Text} {hook : DocumentedHook} :
    documented? call doc = some hook ↔
      ∃ block, DocBlock.parse doc = .ok block ∧ block.params ≠ [] ∧
        FunctionName.invocation? call.function = some hook.kind ∧ call.hook? = some hook.name ∧
        hook.types = block.params.map paramType := by
  unfold documented?
  constructor
  · intro documented
    split at documented
    · next kind name block invocation named parsed =>
        split at documented
        · cases documented
        · next filled =>
            rw [← Option.some.inj documented]
            exact ⟨block, parsed, by simpa using filled, invocation, named, rfl⟩
    · cases documented
  · rintro ⟨block, parsed, filled, invocation, named, types⟩
    simp only [parsed, invocation, named]
    rw [if_neg (by simpa using filled), ← types]

/-- The documentation of a call is local. It is examined with its own comment, or else with that of
the return, the variable or the output right in front of it. The hooks found are those that the
examined calls document: the names in the order in which they come first, and under each name what
its last call says. -/
theorem documentation_is_local (visits : List (Visit ε))
    (carried : ∀ visit ∈ visits, visit.call.isSome = true ↔ visit.tag = .call)
    (through : Through visits) :
    (∀ i call doc, examinedAt? visits i = some (call, doc) ↔
      ∃ visit, visits[i]? = some visit ∧ visit.call = some call ∧
        (visit.comment? = some doc ∨ visit.comment? = none ∧
          ∃ j before, i = j + 1 ∧ visits[j]? = some before ∧
            (before.tag = .returning ∨ before.tag = .variableName ∨ before.tag = .output) ∧
            before.comment? = some doc)) ∧
    (∀ i hook, collectedAt? visits i = some hook ↔
      ∃ call doc block, examinedAt? visits i = some (call, doc) ∧
        DocBlock.parse doc = .ok block ∧ block.params ≠ [] ∧
        FunctionName.invocation? call.function = some hook.kind ∧ call.hook? = some hook.name ∧
        hook.types = block.params.map paramType) ∧
    ∃ hooks, (collect visits).2 = .ok hooks ∧
      hooks.map DocumentedHook.name =
        (((List.range visits.length).filterMap (collectedAt? visits)).map
          DocumentedHook.name).eraseDups ∧
      ∀ name, hooks.find? (fun hook => hook.name == name) =
        ((List.range visits.length).filterMap (collectedAt? visits)).reverse.find?
          fun hook => hook.name == name := by
  refine ⟨?_, ?_, ?_⟩
  · intro i call doc
    rw [examinedAt?_eq_some_iff carried]
    simp only [left?_eq_some_iff]
  · intro i hook
    rw [collectedAt?, Option.bind_eq_some_iff]
    simp only [documented?_eq_some_iff, Prod.exists, exists_and_left]
  · have faultless : ∀ i visit, visits[i]? = some visit →
        (step (stateAfter .initial (visits.take i)) visit).2.2 = none :=
      fun i visit here => (step_at through here).2
    have found := hooks_stateAfter through (Nat.le_refl visits.length)
    rw [List.take_length] at found
    refine ⟨_, collectFrom_eq_ok .initial visits faultless, ?_, ?_⟩
    · rw [found, names_record]
    · intro name
      rw [found, find?_record]

def actionVisit (hook : String) (doc : Option Text) : Visit Unit :=
  ⟨.call, "function_call_expression".toList, none, doc,
    some ⟨some "do_action".toList, [⟨none, [], none, false, some hook.toList, none⟩], none⟩⟩

/-- A documented return in front of a call, a call without documentation, and the hook of the first
call again with a comment of its own. -/
def actionVisits : List (Visit Unit) :=
  [⟨.returning, "return_statement".toList, none, some "/**@param int $a*/".toList, none⟩,
    actionVisit "x" none, actionVisit "y" none,
    actionVisit "x" (some "/**@param string $a*/".toList)]

/-- The return documents the call behind it and no other; of `x` the second documentation stays. -/
theorem documentation_actionVisits :
    (List.range 4).map (fun i => (examinedAt? actionVisits i).map Prod.snd) =
      [none, some "/**@param int $a*/".toList, none, some "/**@param string $a*/".toList] ∧
    ∃ hooks, (collect actionVisits).2 = .ok hooks ∧
      hooks.map DocumentedHook.name = ["x".toList] ∧
      (hooks.find? fun hook => hook.name == "x".toList).map
        (fun hook => hook.types.map UnionType.text) = some ["string".toList] := by
  have carried : ∀ visit ∈ actionVisits, visit.call.isSome = true ↔ visit.tag = .call := by
    simp [actionVisits, actionVisit]
  have readable : ∀ visit ∈ actionVisits, ∀ doc ∈ visit.doc, docReadable doc = true := by
    have first : docReadable "/**@param int $a*/".toList = true := by decide +kernel
    have second : docReadable "/**@param string $a*/".toList = true := by decide +kernel
    simpa [actionVisits, actionVisit] using And.intro first second
  obtain ⟨-, -, hooks, ok, names, last⟩ := documentation_is_local actionVisits carried
    (through_of_docReadable carried readable)
  refine ⟨by decide +kernel, hooks, ok, ?_, ?_⟩
  · rw [names]
    decide +kernel
  · rw [last]
    decide +kernel

end DocComments
end PhpHooks
