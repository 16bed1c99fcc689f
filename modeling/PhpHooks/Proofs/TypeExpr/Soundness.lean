import PhpHooks.Proofs.TypeExpr.Completeness

set_option autoImplicit false

/-!
Whatever is read as a phrase is derived as that phrase, and only an integer that is too long is
refused for its length. What a reader promises is stated by `Meets`, with one rule for each way in
which readers are put together.
-/
namespace PhpHooks.TypeExpr

/-- The tokens hold no blank. -/
def Clean (tokens : List Lexeme) : Prop :=
  ∀ token ∈ tokens, token.isToken = true

theorem Clean.tail {used rest : List Lexeme} (clean : Clean (used ++ rest)) : Clean rest :=
  fun token inside => clean token (List.mem_append_right used inside)

theorem Clean.rest {token : Lexeme} {rest : List Lexeme} (clean : Clean (token :: rest)) :
    Clean rest :=
  fun other inside => clean other (List.mem_cons_of_mem token inside)

def NoBrackets (tokens : List Lexeme) : Prop :=
  ∀ rest, tokens ≠ .ofMark '[' :: .ofMark ']' :: rest

/-- A reader's answer on `tokens`: what it read, the value and the rest are `good`, and a refusal
for the length of an integer has its cause among the tokens. -/
def Meets {α : Type} (tokens : List Lexeme) (good : List Lexeme → α → List Lexeme → Prop) :
    Except TypeFault (α × List Lexeme) → Prop
  | .ok (value, rest) => ∃ used, tokens = used ++ rest ∧ good used value rest
  | .error (.overflow _) => ∃ token ∈ tokens, token.isLongInteger = true
  | .error (.malformed _) => True

section Rules

variable {α β : Type} {tokens : List Lexeme}

theorem Meets.mono {first second : List Lexeme → α → List Lexeme → Prop}
    {answer : Except TypeFault (α × List Lexeme)} (meets : Meets tokens first answer)
    (implies : ∀ used value rest, first used value rest → second used value rest) :
    Meets tokens second answer := by
  rcases answer with (cause | cause) | ⟨value, rest⟩
  · trivial
  · exact meets
  · obtain ⟨used, split, holds⟩ := meets
    exact ⟨used, split, implies used value rest holds⟩

/-- What a reader read stays in front of what the next one reads. -/
theorem Meets.after {used rest : List Lexeme} {good : List Lexeme → α → List Lexeme → Prop}
    {answer : Except TypeFault (α × List Lexeme)}
    (meets : Meets rest (fun more value after => good (used ++ more) value after) answer) :
    Meets (used ++ rest) good answer := by
  rcases answer with (cause | cause) | ⟨value, after⟩
  · trivial
  · obtain ⟨token, inside, long⟩ := meets
    exact ⟨token, List.mem_append_right used inside, long⟩
  · obtain ⟨more, split, holds⟩ := meets
    exact ⟨used ++ more, by rw [split, List.append_assoc], holds⟩

theorem Meets.afterToken {token : Lexeme} {rest : List Lexeme}
    {good : List Lexeme → α → List Lexeme → Prop} {answer : Except TypeFault (α × List Lexeme)}
    (meets : Meets rest (fun more value after => good (token :: more) value after) answer) :
    Meets (token :: rest) good answer := by
  show Meets ([token] ++ rest) good answer
  exact meets.after

theorem Meets.bind {first : List Lexeme → α → List Lexeme → Prop}
    {second : List Lexeme → β → List Lexeme → Prop} {answer : Except TypeFault (α × List Lexeme)}
    {next : α × List Lexeme → Except TypeFault (β × List Lexeme)}
    (meets : Meets tokens first answer)
    (continues : ∀ used value rest, tokens = used ++ rest → first used value rest →
      Meets rest (fun more result after => second (used ++ more) result after)
        (next (value, rest))) :
    Meets tokens second (answer >>= next) := by
  rcases answer with (cause | cause) | ⟨value, rest⟩
  · trivial
  · exact meets
  · obtain ⟨used, rfl, holds⟩ := meets
    exact (continues used value rest rfl holds).after

theorem Meets.expect {c : Char} {good : List Lexeme → β → List Lexeme → Prop}
    {next : List Lexeme → Except TypeFault (β × List Lexeme)}
    (continues : ∀ rest, tokens = .ofMark c :: rest →
      Meets rest (fun more result after => good (.ofMark c :: more) result after) (next rest)) :
    Meets tokens good (expect c tokens >>= next) := by
  cases found : accept? c tokens with
  | none =>
      have refused : TypeExpr.expect c tokens =
          .error (.malformed (.missing c (tokens.head?.map Lexeme.text))) := by
        simp only [TypeExpr.expect, found]
      rw [refused]
      trivial
  | some rest =>
      have split := (accept?_eq_some_iff c tokens rest).mp found
      subst split
      rw [expect_ofMark]
      exact (continues rest rfl).afterToken

end Rules

theorem wrapArrays_spec (u : UnionType) (tokens : List Lexeme) :
    ∃ count, tokens = brackets count ++ (wrapArrays u tokens).2 ∧
      (wrapArrays u tokens).1 = arraysOf count u ∧ NoBrackets (wrapArrays u tokens).2 := by
  fun_induction wrapArrays u tokens with
  | case1 u opening closing rest pair ih =>
      obtain ⟨count, split, value, ended⟩ := ih
      simp only [Bool.and_eq_true, isThe_iff] at pair
      refine ⟨count + 1, ?_, value, ended⟩
      rw [pair.1, pair.2, brackets, List.cons_append, List.cons_append, ← split]
  | case2 u opening closing rest other =>
      refine ⟨0, rfl, rfl, ?_⟩
      intro after same
      simp only [List.cons.injEq] at same
      simp [same.1, same.2.1] at other
  | case3 u tokens short =>
      refine ⟨0, rfl, rfl, ?_⟩
      intro after same
      exact short _ _ _ same

theorem NoBrackets.brackets_eq {count : Nat} {rest : List Lexeme}
    (none : NoBrackets (brackets count ++ rest)) : count = 0 := by
  cases count with
  | zero => rfl
  | succ count => exact absurd rfl (none (brackets count ++ rest))

theorem numberValue_error {text : Text} {fault : TypeFault}
    (refused : numberValue text = .error fault) :
    ∃ cause, fault = .overflow cause ∧ Lexeme.isLongInteger ⟨.number, text⟩ = true := by
  simp only [numberValue] at refused
  cases value : Numeral.natural? 10 (Numeral.splitSign text).2 with
  | none => simp [value] at refused
  | some n =>
      by_cases long : Numeral.maxDigits < (Numeral.splitSign text).2.length
      · simp only [value, long, ↓reduceIte, Except.error.injEq] at refused
        exact ⟨_, refused.symm, by simp [Lexeme.isLongInteger, value, long]⟩
      · simp [value, long] at refused

def itemBehindColon (bound : Nat) (key : Text) (optional : Bool) (tokens : List Lexeme) :
    Except TypeFault (List ShapeItem × List Lexeme) := do
  let (type, tokens) ← union bound tokens
  match accept? ',' tokens with
  | some tokens => do
      let (others, tokens) ← shapeItems bound tokens
      return (⟨key, type, optional⟩ :: others, tokens)
  | none => do
      let tokens ← expect '\x7d' tokens
      return ([⟨key, type, optional⟩], tokens)

theorem shapeItems_cons {token : Lexeme} {tokens : List Lexeme} (bound : Nat)
    (closing : accept? '\x7d' (token :: tokens) = none) :
    shapeItems (bound + 1) (token :: tokens) =
      (shapeKey token).bind fun key =>
        (expect ':' ((accept? '?' tokens).getD tokens)).bind fun rest =>
          itemBehindColon bound key (accept? '?' tokens).isSome rest := by
  simp only [shapeItems, closing]
  rfl

theorem shapeKey_error {token : Lexeme} {fault : TypeFault}
    (refused : shapeKey token = .error fault) : ∃ cause, fault = .malformed cause := by
  obtain ⟨kind, text⟩ := token
  cases kind <;> simp only [shapeKey, Except.error.injEq, reduceCtorEq] at refused
  · exact ⟨_, refused.symm⟩
  · exact ⟨_, refused.symm⟩

/-- What reading up to a depth promises. A type that ends in the result of a callable has taken the
brackets behind it. -/
structure Sound (bound : Nat) : Prop where
  union : ∀ tokens, Clean tokens →
    Meets tokens (fun used u _ => Derives true .union used u) (union bound tokens)
  alternatives : ∀ tokens, Clean tokens →
    Meets tokens (fun used u _ => Derives true .alternatives used u) (alternatives bound tokens)
  member : ∀ tokens, Clean tokens →
    Meets tokens (fun used u rest => Derives true .member used u ∧ NoBrackets rest)
      (member bound tokens)
  primary : ∀ tokens, Clean tokens →
    Meets tokens (fun used u rest => ∃ closed, Derives true (.primary closed) used u ∧
      (closed = false → NoBrackets rest)) (primary bound tokens)
  named : ∀ name tokens, Clean tokens →
    Meets tokens (fun used u rest => ∃ closed, Derives true (.named name closed) used u ∧
      (closed = false → NoBrackets rest)) (named bound name tokens)
  unions : ∀ tokens, Clean tokens →
    Meets tokens (fun used us _ => Derives true .arguments used us) (unions bound tokens)
  items : ∀ tokens, Clean tokens →
    Meets tokens (fun used items _ => Derives true .items used items) (shapeItems bound tokens)
  callable : ∀ tokens, Clean tokens →
    Meets tokens (fun used u rest => ∃ closed, Derives true (.callable closed) used u ∧
      (closed = false → NoBrackets rest)) (callable bound tokens)

section Steps

variable {bound : Nat} (sound : Sound bound)
include sound

theorem union_sound (tokens : List Lexeme) (clean : Clean tokens) :
    Meets tokens (fun used u _ => Derives true .union used u) (union (bound + 1) tokens) := by
  rw [union]
  refine (sound.member tokens clean).bind ?_
  rintro first u rest rfl ⟨derived, -⟩
  refine (sound.alternatives rest clean.tail).bind ?_
  rintro others v after rfl more
  exact ⟨[], rfl, by simpa using derived.union more⟩

theorem alternatives_sound (tokens : List Lexeme) (clean : Clean tokens) :
    Meets tokens (fun used u _ => Derives true .alternatives used u)
      (alternatives (bound + 1) tokens) := by
  rw [alternatives]
  cases found : accept? '|' tokens with
  | none => exact ⟨[], rfl, .alternativesNone⟩
  | some inner =>
      obtain rfl := (accept?_eq_some_iff _ _ _).mp found
      refine Meets.afterToken ((sound.member inner clean.rest).bind ?_)
      rintro first u rest rfl ⟨derived, -⟩
      refine (sound.alternatives rest clean.rest.tail).bind ?_
      rintro others v after rfl more
      exact ⟨[], rfl, by simpa using derived.alternativesMore more⟩

theorem member_sound (tokens : List Lexeme) (clean : Clean tokens) :
    Meets tokens (fun used u rest => Derives true .member used u ∧ NoBrackets rest)
      (member (bound + 1) tokens) := by
  rw [member]
  refine (sound.primary tokens clean).bind ?_
  rintro used u rest rfl ⟨closed, derived, open_⟩
  obtain ⟨count, split, value, ended⟩ := wrapArrays_spec u rest
  refine ⟨brackets count, split, ?_, ended⟩
  rw [value]
  refine derived.member count fun _ result => ?_
  rw [split] at open_
  exact (open_ result).brackets_eq

theorem primary_sound (tokens : List Lexeme) (clean : Clean tokens) :
    Meets tokens (fun used u rest => ∃ closed, Derives true (.primary closed) used u ∧
      (closed = false → NoBrackets rest)) (primary (bound + 1) tokens) := by
  cases tokens with
  | nil => trivial
  | cons token tokens =>
      obtain ⟨kind, text⟩ := token
      have closedType : ∀ {used : List Lexeme} {u : UnionType} {rest : List Lexeme},
          Derives true (.primary true) used u → ∃ closed, Derives true (.primary closed) used u ∧
            (closed = false → NoBrackets rest) :=
        fun derived => ⟨true, derived, fun never => absurd never (by decide)⟩
      cases kind with
      | blank => exact absurd (clean _ List.mem_cons_self) (by simp [Lexeme.isToken])
      | string => exact ⟨[⟨.string, text⟩], rfl, closedType (.string text)⟩
      | number =>
          rw [primary]
          cases valued : numberValue text with
          | ok value => exact ⟨[⟨.number, text⟩], rfl, closedType (.number valued)⟩
          | error fault =>
              obtain ⟨cause, rfl, long⟩ := numberValue_error valued
              exact ⟨⟨.number, text⟩, List.mem_cons_self, long⟩
      | name =>
          rw [primary]
          refine Meets.afterToken ((sound.named text tokens clean.rest).mono ?_)
          rintro used u rest ⟨closed, derived, ended⟩
          exact ⟨closed, derived.name, ended⟩
      | mark =>
          rw [primary]
          by_cases nullable : text = ['?']
          · subst nullable
            simp only [BEq.rfl, ↓reduceIte]
            refine Meets.afterToken ((sound.primary tokens clean.rest).bind ?_)
            rintro used u rest rfl ⟨closed, derived, ended⟩
            exact ⟨[], rfl, closed, by simpa [Lexeme.ofMark] using derived.nullable, ended⟩
          · by_cases group : text = ['(']
            · subst group
              simp only [show (['('] == ['?']) = false by decide, Bool.false_eq_true, BEq.rfl,
                ↓reduceIte]
              refine Meets.afterToken ((sound.union tokens clean.rest).bind ?_)
              rintro used u rest rfl derived
              refine Meets.expect ?_
              rintro after rfl
              exact ⟨[], rfl, closedType (by simpa [Lexeme.ofMark] using derived.group)⟩
            · simp only [beq_iff_eq, nullable, group, ↓reduceIte]
              trivial

theorem named_sound (name : Text) (tokens : List Lexeme) (clean : Clean tokens) :
    Meets tokens (fun used u rest => ∃ closed, Derives true (.named name closed) used u ∧
      (closed = false → NoBrackets rest)) (named (bound + 1) name tokens) := by
  have closedType : ∀ {used : List Lexeme} {u : UnionType} {rest : List Lexeme},
      Derives true (.named name true) used u → ∃ closed, Derives true (.named name closed) used u ∧
        (closed = false → NoBrackets rest) :=
    fun derived => ⟨true, derived, fun never => absurd never (by decide)⟩
  rw [named]
  by_cases truth : Text.lower name = "true".toList
  · simp only [truth, BEq.rfl, ↓reduceIte]
    exact ⟨[], rfl, closedType (.truth truth)⟩
  by_cases falsity : Text.lower name = "false".toList
  · simp only [beq_iff_eq, falsity, ↓reduceIte]
    exact ⟨[], rfl, closedType (.falsity falsity)⟩
  simp only [beq_iff_eq, truth, falsity, ↓reduceIte]
  split
  · next inner shape found =>
      obtain rfl := (accept?_eq_some_iff _ _ _).mp found
      refine Meets.afterToken ((sound.items inner clean.rest).bind ?_)
      rintro used items rest rfl derived
      exact ⟨[], rfl, closedType (by simpa using derived.shape shape)⟩
  · split
    · next inner callable found =>
        obtain rfl := (accept?_eq_some_iff _ _ _).mp found
        refine Meets.afterToken ((sound.callable inner clean.rest).mono ?_)
        rintro used u rest ⟨closed, derived, ended⟩
        exact ⟨closed, derived.callableName callable, ended⟩
    · split
      · next inner found =>
          obtain rfl := (accept?_eq_some_iff _ _ _).mp found
          refine Meets.afterToken ((sound.unions inner clean.rest).bind ?_)
          rintro used arguments rest rfl derived
          refine Meets.expect ?_
          rintro after rfl
          exact ⟨[], rfl, closedType (by simpa using derived.generic truth falsity)⟩
      · exact ⟨[], rfl, closedType (.plain truth falsity)⟩

theorem unions_sound (tokens : List Lexeme) (clean : Clean tokens) :
    Meets tokens (fun used us _ => Derives true .arguments used us)
      (unions (bound + 1) tokens) := by
  rw [unions]
  refine (sound.union tokens clean).bind ?_
  rintro first u rest rfl derived
  cases found : accept? ',' rest with
  | none =>
      simp only [found]
      exact ⟨[], rfl, by simpa using derived.argumentsOne⟩
  | some inner =>
      obtain rfl := (accept?_eq_some_iff _ _ _).mp found
      simp only [found]
      refine Meets.afterToken ((sound.unions inner clean.tail.rest).bind ?_)
      rintro others us after rfl more
      exact ⟨[], rfl, by simpa using derived.argumentsMore more⟩

theorem parameters_sound (tokens : List Lexeme) (clean : Clean tokens) :
    Meets tokens (fun used us _ => Derives true .parameters used us)
      (read .parameters bound tokens) := by
  rw [read]
  cases found : accept? ')' tokens with
  | some rest =>
      obtain rfl := (accept?_eq_some_iff _ _ _).mp found
      exact ⟨[.ofMark ')'], rfl, .parametersNone⟩
  | none =>
      refine (sound.unions tokens clean).bind ?_
      rintro used us rest rfl derived
      refine Meets.expect ?_
      rintro after rfl
      exact ⟨[], rfl, by simpa using derived.parametersSome⟩

theorem callable_sound (tokens : List Lexeme) (clean : Clean tokens) :
    Meets tokens (fun used u rest => ∃ closed, Derives true (.callable closed) used u ∧
      (closed = false → NoBrackets rest)) (callable (bound + 1) tokens) := by
  rw [callable_eq]
  refine (parameters_sound sound tokens clean).bind ?_
  rintro used parameters rest rfl derived
  cases found : accept? ':' rest with
  | none =>
      simp only [found]
      exact ⟨[], rfl, true, by simpa using derived.withoutResult,
        fun never => absurd never (by decide)⟩
  | some inner =>
      obtain rfl := (accept?_eq_some_iff _ _ _).mp found
      simp only [found]
      refine Meets.afterToken ((sound.member inner clean.tail.rest).bind ?_)
      rintro result u after rfl ⟨member, ended⟩
      exact ⟨[], rfl, false, by simpa using derived.withResult member, fun _ => ended⟩

/-- An item behind its colon, with what follows it. -/
theorem itemBehindColon_sound {token : Lexeme} {key : Text} (tokens : List Lexeme)
    (clean : Clean tokens) (accepted : shapeKey token = .ok key) (optional : Bool) :
    Meets tokens
      (fun used items _ => Derives true .items (token :: (separator optional ++ used)) items)
      (itemBehindColon bound key optional tokens) := by
  refine (sound.union tokens clean).bind ?_
  rintro used u rest rfl derived
  cases found : accept? ',' rest with
  | none =>
      simp only [found]
      refine Meets.expect ?_
      rintro after rfl
      exact ⟨[], rfl, by simpa using derived.itemsLast optional accepted⟩
  | some inner =>
      obtain rfl := (accept?_eq_some_iff _ _ _).mp found
      simp only [found]
      refine Meets.afterToken ((sound.items inner clean.tail.rest).bind ?_)
      rintro others items after rfl more
      exact ⟨[], rfl, by simpa using derived.itemsMore optional accepted more⟩

theorem shapeItems_sound (tokens : List Lexeme) (clean : Clean tokens) :
    Meets tokens (fun used items _ => Derives true .items used items)
      (shapeItems (bound + 1) tokens) := by
  cases closing : accept? '\x7d' tokens with
  | some rest =>
      obtain rfl := (accept?_eq_some_iff _ _ _).mp closing
      simp only [shapeItems, closing]
      exact ⟨[.ofMark '\x7d'], rfl, .itemsNone⟩
  | none =>
      cases tokens with
      | nil => trivial
      | cons token tokens =>
          rw [shapeItems_cons bound closing]
          cases accepted : shapeKey token with
          | error fault =>
              obtain ⟨cause, rfl⟩ := shapeKey_error accepted
              trivial
          | ok key =>
              refine Meets.afterToken ?_
              simp only [Except.bind]
              cases marked : accept? '?' tokens with
              | none =>
                  refine Meets.expect ?_
                  rintro rest rfl
                  exact itemBehindColon_sound sound rest clean.rest.rest accepted false
              | some behind =>
                  obtain rfl := (accept?_eq_some_iff _ _ _).mp marked
                  refine Meets.afterToken (Meets.expect ?_)
                  rintro rest rfl
                  exact itemBehindColon_sound sound rest clean.rest.rest.rest accepted true

end Steps

theorem sound (bound : Nat) : Sound bound := by
  induction bound with
  | zero => constructor <;> intros <;> trivial
  | succ bound ih =>
      exact ⟨union_sound ih, alternatives_sound ih, member_sound ih, primary_sound ih,
        named_sound ih, unions_sound ih, shapeItems_sound ih, callable_sound ih⟩

end PhpHooks.TypeExpr
