import PhpHooks.Proofs.TypeExpr.Grammar

set_option autoImplicit false

/-!
Every phrase that the grammar derives is read with its value, in front of any tokens that do not
go on with it, if the bound on the recursion allows for its length.
-/
namespace PhpHooks.TypeExpr

theorem isThe_iff (c : Char) (token : Lexeme) : token.isThe c = true ↔ token = .ofMark c := by
  obtain ⟨kind, text⟩ := token
  simp [Lexeme.isThe, Lexeme.ofMark]

@[simp] theorem isThe_ofMark (c d : Char) : (Lexeme.ofMark d).isThe c = decide (d = c) := by
  by_cases same : d = c <;> simp [Lexeme.isThe, Lexeme.ofMark, same]

@[simp] theorem accept?_nil (c : Char) : accept? c [] = none := rfl

@[simp] theorem accept?_ofMark (c d : Char) (rest : List Lexeme) :
    accept? c (.ofMark d :: rest) = if d = c then some rest else none := by
  simp [accept?]

theorem accept?_of_kind (c : Char) (token : Lexeme) (rest : List Lexeme)
    (other : token.kind ≠ .mark) : accept? c (token :: rest) = none := by
  simp [accept?, Lexeme.isThe, other]

theorem accept?_eq_some_iff (c : Char) (tokens rest : List Lexeme) :
    accept? c tokens = some rest ↔ tokens = .ofMark c :: rest := by
  cases tokens with
  | nil => simp
  | cons token others =>
      by_cases here : token.isThe c = true
      · have mark : token = .ofMark c := (isThe_iff c token).mp here
        simp [mark]
      · have away : token ≠ .ofMark c := fun mark => here ((isThe_iff c token).mpr mark)
        simp [accept?, here, away]

@[simp] theorem expect_ofMark (c : Char) (rest : List Lexeme) :
    expect c (.ofMark c :: rest) = .ok rest := by
  simp [expect]

def read : (phrase : Phrase) → Nat → List Lexeme → Except TypeFault (phrase.Value × List Lexeme)
  | .union, bound, tokens => union bound tokens
  | .alternatives, bound, tokens => alternatives bound tokens
  | .member, bound, tokens => member bound tokens
  | .primary _, bound, tokens => primary bound tokens
  | .named name _, bound, tokens => named bound name tokens
  | .arguments, bound, tokens => unions bound tokens
  | .parameters, bound, tokens =>
      match accept? ')' tokens with
      | some tokens => .ok ([], tokens)
      | none => do
          let (parameters, tokens) ← unions bound tokens
          let tokens ← expect ')' tokens
          .ok (parameters, tokens)
  | .callable _, bound, tokens => callable bound tokens
  | .items, bound, tokens => shapeItems bound tokens

/-- The marks that would go on with a phrase. -/
def Phrase.continues : Phrase → List Char
  | .union | .alternatives => ['|', '[', '\x7b', '(', '<', ':']
  | .arguments => [',', '|', '[', '\x7b', '(', '<', ':']
  | .member | .primary false | .named _ false | .callable false => ['[', '\x7b', '(', '<', ':']
  | .primary true | .named _ true | .callable true => ['\x7b', '(', '<', ':']
  | .parameters | .items => []

/-- The tokens do not go on with a phrase. -/
def Phrase.Stops (phrase : Phrase) (rest : List Lexeme) : Prop :=
  ∀ c ∈ phrase.continues, accept? c rest = none

/-- What a phrase needs of the bound beyond six calls a token. -/
def Phrase.rank : Phrase → Nat
  | .union => 3
  | .member => 2
  | .arguments => 4
  | .parameters => 0
  | _ => 1

theorem Phrase.Stops.nil (phrase : Phrase) : phrase.Stops [] :=
  fun _ _ => rfl

theorem Phrase.Stops.ofMark {phrase : Phrase} {c : Char} (rest : List Lexeme)
    (other : c ∉ phrase.continues) : phrase.Stops (.ofMark c :: rest) := by
  intro d inside
  have apart : c ≠ d := fun same => other (same ▸ inside)
  simp [apart]

theorem Phrase.Stops.mono {phrase other : Phrase} {rest : List Lexeme} (stops : phrase.Stops rest)
    (fewer : other.continues ⊆ phrase.continues) : other.Stops rest :=
  fun c inside => stops c (fewer inside)

/-- Nothing goes on with a phrase that a mark closes. -/
theorem Phrase.Stops.ofClosed {phrase : Phrase} (rest : List Lexeme)
    (closes : phrase.continues = []) : phrase.Stops rest := by
  intro c inside
  rw [closes] at inside
  exact absurd inside List.not_mem_nil

theorem wrapArrays_of_stops (u : UnionType) (rest : List Lexeme)
    (stops : accept? '[' rest = none) : wrapArrays u rest = (u, rest) := by
  cases rest with
  | nil => rfl
  | cons opening others =>
      cases others with
      | nil => rfl
      | cons closing others =>
          have other : opening.isThe '[' = false := by
            cases here : opening.isThe '[' with
            | false => rfl
            | true => simp [accept?, here] at stops
          simp [wrapArrays, other]

theorem wrapArrays_brackets (count : Nat) (u : UnionType) (rest : List Lexeme)
    (stops : accept? '[' rest = none) :
    wrapArrays u (brackets count ++ rest) = (arraysOf count u, rest) := by
  induction count generalizing u with
  | zero => exact wrapArrays_of_stops u rest stops
  | succ count ih =>
      simp only [brackets, List.cons_append, wrapArrays, isThe_ofMark, decide_true, Bool.and_self,
        ↓reduceIte, ih, arraysOf]

/-- Behind a member an alternative begins with a bar, so it does not go on with the member. -/
theorem Derives.stops_member {others rest : List Lexeme} {v : UnionType}
    (derived : Derives true .alternatives others v) (stops : Phrase.union.Stops rest) :
    Phrase.member.Stops (others ++ rest) := by
  cases derived with
  | alternativesNone => exact stops.mono (by decide)
  | alternativesMore first more => exact Phrase.Stops.ofMark _ (by decide)

section Steps

variable {bound : Nat} {name : Text} {tokens others rest : List Lexeme} {u v : UnionType}

theorem union_step (first : member bound tokens = .ok (u, others))
    (more : alternatives bound others = .ok (v, rest)) :
    union (bound + 1) tokens = .ok (UnionType.distinct (u ++ v), rest) := by
  simp only [union, first, more, bind, Except.bind, pure, Except.pure]

theorem alternatives_stop (stop : accept? '|' rest = none) :
    alternatives (bound + 1) rest = .ok ([], rest) := by
  simp only [alternatives, stop]

theorem alternatives_step (first : member bound tokens = .ok (u, others))
    (more : alternatives bound others = .ok (v, rest)) :
    alternatives (bound + 1) (.ofMark '|' :: tokens) = .ok (u ++ v, rest) := by
  simp only [alternatives, accept?_ofMark, ↓reduceIte, first, more, bind, Except.bind, pure,
    Except.pure]

theorem member_step (inner : primary bound tokens = .ok (u, others)) :
    member (bound + 1) tokens = .ok (wrapArrays u others) := by
  simp only [member, inner, bind, Except.bind, pure, Except.pure]

theorem primary_nullable (inner : primary bound tokens = .ok (u, rest)) :
    primary (bound + 1) (.ofMark '?' :: tokens) =
      .ok (UnionType.distinct (u ++ UnionType.named "null"), rest) := by
  simp only [primary, Lexeme.ofMark, BEq.rfl, ↓reduceIte, inner, bind, Except.bind, pure,
    Except.pure]

theorem primary_group (inner : union bound tokens = .ok (u, .ofMark ')' :: rest)) :
    primary (bound + 1) (.ofMark '(' :: tokens) = .ok (u, rest) := by
  have other : (['('] == ['?']) = false := by decide
  simp only [primary, Lexeme.ofMark, other, BEq.rfl, ↓reduceIte, Bool.false_eq_true]
  rw [inner]
  simp only [bind, Except.bind, expect_ofMark, pure, Except.pure]

theorem named_truth (word : Text.lower name = "true".toList) :
    named (bound + 1) name rest = .ok ([.literal (.bool true)], rest) := by
  simp only [named, word, BEq.rfl, ↓reduceIte]

theorem named_falsity (word : Text.lower name = "false".toList) :
    named (bound + 1) name rest = .ok ([.literal (.bool false)], rest) := by
  have other : ("false".toList == "true".toList) = false := by decide
  simp only [named, word, other, BEq.rfl, ↓reduceIte, Bool.false_eq_true]

theorem isShapeName_no_literal {word : Text} (shape : isShapeName word = true) :
    word ≠ "true".toList ∧ word ≠ "false".toList := by
  constructor <;> rintro rfl <;> exact absurd shape (by decide)

theorem isCallableName_no_literal {word : Text} (callable : isCallableName word = true) :
    word ≠ "true".toList ∧ word ≠ "false".toList := by
  constructor <;> rintro rfl <;> exact absurd callable (by decide)

theorem named_shape {items : List ShapeItem} (shape : isShapeName (Text.lower name) = true)
    (inner : shapeItems bound tokens = .ok (items, rest)) :
    named (bound + 1) name (.ofMark '\x7b' :: tokens) =
      .ok ([.shape (Text.lower name) items], rest) := by
  obtain ⟨notTrue, notFalse⟩ := isShapeName_no_literal shape
  simp only [named, beq_iff_eq, notTrue, notFalse, ↓reduceIte, shape, accept?_ofMark, inner, bind,
    Except.bind, pure, Except.pure]

theorem named_callable (callable : isCallableName (Text.lower name) = true)
    (inner : TypeExpr.callable bound tokens = .ok (u, rest)) :
    named (bound + 1) name (.ofMark '(' :: tokens) = .ok (u, rest) := by
  obtain ⟨notTrue, notFalse⟩ := isCallableName_no_literal callable
  have other : '(' ≠ '\x7b' := by decide
  simp only [named, beq_iff_eq, notTrue, notFalse, ↓reduceIte, callable, accept?_ofMark, other,
    inner]
  cases isShapeName (Text.lower name) <;> rfl

theorem named_generic {arguments : List UnionType} (notTrue : Text.lower name ≠ "true".toList)
    (notFalse : Text.lower name ≠ "false".toList)
    (inner : unions bound tokens = .ok (arguments, .ofMark '>' :: rest)) :
    named (bound + 1) name (.ofMark '<' :: tokens) = .ok ([.named name arguments], rest) := by
  have noBrace : '<' ≠ '\x7b' := by decide
  have noParenthesis : '<' ≠ '(' := by decide
  simp only [named, beq_iff_eq, notTrue, notFalse, ↓reduceIte, accept?_ofMark, noBrace,
    noParenthesis, inner, bind, Except.bind, expect_ofMark, pure, Except.pure]
  cases isShapeName (Text.lower name) <;> cases isCallableName (Text.lower name) <;> rfl

theorem named_plain (notTrue : Text.lower name ≠ "true".toList)
    (notFalse : Text.lower name ≠ "false".toList) (noBrace : accept? '\x7b' rest = none)
    (noParenthesis : accept? '(' rest = none) (noAngle : accept? '<' rest = none) :
    named (bound + 1) name rest = .ok ([.named name []], rest) := by
  simp only [named, beq_iff_eq, notTrue, notFalse, ↓reduceIte, noBrace, noParenthesis, noAngle]
  cases isShapeName (Text.lower name) <;> cases isCallableName (Text.lower name) <;> rfl

theorem unions_last (inner : union bound tokens = .ok (u, rest)) (stop : accept? ',' rest = none) :
    unions (bound + 1) tokens = .ok ([u], rest) := by
  simp only [unions, inner, bind, Except.bind, stop, pure, Except.pure]

theorem unions_step {us : List UnionType}
    (inner : union bound tokens = .ok (u, .ofMark ',' :: others)) (more : unions bound others = .ok (us, rest)) :
    unions (bound + 1) tokens = .ok (u :: us, rest) := by
  simp only [unions, inner, bind, Except.bind, accept?_ofMark, ↓reduceIte, more, pure, Except.pure]

theorem callable_eq (bound : Nat) (tokens : List Lexeme) :
    callable (bound + 1) tokens =
      (read .parameters bound tokens).bind fun (parameters, tokens) =>
        match accept? ':' tokens with
        | some tokens =>
            (member bound tokens).bind fun (result, tokens) =>
              .ok ([.callable parameters (some result)], tokens)
        | none => .ok ([.callable parameters none], tokens) := by
  rw [callable, read]
  cases accept? ')' tokens with
  | some tokens => rfl
  | none =>
      cases unions bound tokens with
      | error fault => rfl
      | ok result =>
          obtain ⟨parameters, tokens⟩ := result
          simp only [bind, Except.bind]
          cases expect ')' tokens <;> rfl

theorem callable_plain {parameters : List UnionType}
    (inner : read .parameters bound tokens = .ok (parameters, rest))
    (stop : accept? ':' rest = none) :
    callable (bound + 1) tokens = .ok ([.callable parameters none], rest) := by
  simp only [callable_eq, inner, Except.bind, stop]

theorem callable_result {parameters : List UnionType}
    (inner : read .parameters bound tokens = .ok (parameters, .ofMark ':' :: others))
    (result : member bound others = .ok (u, rest)) :
    callable (bound + 1) tokens = .ok ([.callable parameters (some u)], rest) := by
  simp only [callable_eq, inner, Except.bind, accept?_ofMark, ↓reduceIte, result]

theorem parameters_some {parameters : List UnionType} (first : accept? ')' tokens = none)
    (inner : unions bound tokens = .ok (parameters, .ofMark ')' :: rest)) :
    read .parameters bound tokens = .ok (parameters, rest) := by
  simp only [read, first, inner, bind, Except.bind, expect_ofMark]

/-- No type begins with a closing parenthesis. -/
theorem accept?_of_unions {us : List UnionType}
    (inner : unions bound tokens = .ok (us, rest)) : accept? ')' tokens = none := by
  cases closing : accept? ')' tokens with
  | none => rfl
  | some others =>
      rw [(accept?_eq_some_iff _ _ _).mp closing] at inner
      rcases bound with _ | _ | _ | _ | bound <;>
        simp [unions, union, member, primary, Lexeme.ofMark, bind, Except.bind] at inner

/-- Behind a key the reader finds the mark of an optional item, if there is one, and the colon. -/
theorem accept?_separator (optional : Bool) (rest : List Lexeme) :
    (accept? '?' (separator optional ++ rest)).isSome = optional ∧
      expect ':' ((accept? '?' (separator optional ++ rest)).getD (separator optional ++ rest)) =
        .ok rest := by
  cases optional <;> simp [separator]

theorem accept?_of_shapeKey {token : Lexeme} {key : Text} (c : Char)
    (accepted : shapeKey token = .ok key) (rest : List Lexeme) :
    accept? c (token :: rest) = none := by
  apply accept?_of_kind
  intro mark
  simp [shapeKey, mark] at accepted

theorem shapeItems_last {token : Lexeme} {key : Text} (optional : Bool)
    (accepted : shapeKey token = .ok key)
    (inner : union bound tokens = .ok (u, .ofMark '\x7d' :: rest)) :
    shapeItems (bound + 1) (token :: (separator optional ++ tokens)) =
      .ok ([⟨key, u, optional⟩], rest) := by
  obtain ⟨marked, colon⟩ := accept?_separator optional tokens
  have other : '\x7d' ≠ ',' := by decide
  simp only [shapeItems, accept?_of_shapeKey '\x7d' accepted, accepted, marked, colon, inner, bind,
    Except.bind, accept?_ofMark, other, ↓reduceIte, expect_ofMark, pure, Except.pure]

theorem shapeItems_step {token : Lexeme} {key : Text} {items : List ShapeItem} (optional : Bool)
    (accepted : shapeKey token = .ok key)
    (inner : union bound tokens = .ok (u, .ofMark ',' :: others))
    (more : shapeItems bound others = .ok (items, rest)) :
    shapeItems (bound + 1) (token :: (separator optional ++ tokens)) =
      .ok (⟨key, u, optional⟩ :: items, rest) := by
  obtain ⟨marked, colon⟩ := accept?_separator optional tokens
  simp only [shapeItems, accept?_of_shapeKey '\x7d' accepted, accepted, marked, colon, inner, bind,
    Except.bind, accept?_ofMark, ↓reduceIte, more, pure, Except.pure]

end Steps

/-- Every derived phrase is read as what it stands for. -/
theorem Derives.read_eq {phrase : Phrase} {used : List Lexeme} {value : phrase.Value}
    (derived : Derives true phrase used value) (rest : List Lexeme) (bound : Nat)
    (stops : phrase.Stops rest) (enough : 6 * used.length + phrase.rank ≤ bound) :
    read phrase bound (used ++ rest) = .ok (value, rest) := by
  induction derived generalizing rest bound with
  | @union first others u v member alternatives ihFirst ihOthers =>
      simp only [List.length_append, Phrase.rank] at enough ihFirst ihOthers
      obtain ⟨bound, rfl⟩ : ∃ less, bound = less + 1 := ⟨bound - 1, by omega⟩
      rw [List.append_assoc]
      exact union_step (ihFirst (others ++ rest) bound (alternatives.stops_member stops) (by omega))
        (ihOthers rest bound stops (by omega))
  | alternativesNone =>
      simp only [List.length_nil, Phrase.rank] at enough
      obtain ⟨bound, rfl⟩ : ∃ less, bound = less + 1 := ⟨bound - 1, by omega⟩
      exact alternatives_stop (stops '|' (by decide))
  | @alternativesMore first others u v member alternatives ihFirst ihOthers =>
      simp only [List.length_cons, List.length_append, Phrase.rank] at enough ihFirst ihOthers
      obtain ⟨bound, rfl⟩ : ∃ less, bound = less + 1 := ⟨bound - 1, by omega⟩
      rw [List.cons_append, List.append_assoc]
      exact alternatives_step
        (ihFirst (others ++ rest) bound (alternatives.stops_member stops) (by omega))
        (ihOthers rest bound stops (by omega))
  | @member tokens u closed count inner greedy ih =>
      simp only [List.length_append, Phrase.rank] at enough ih
      obtain ⟨bound, rfl⟩ : ∃ less, bound = less + 1 := ⟨bound - 1, by omega⟩
      have next : (Phrase.primary closed).Stops (brackets count ++ rest) := by
        cases count with
        | zero => exact stops.mono (by cases closed <;> decide)
        | succ count =>
            have ended : closed = true := by
              cases closed with
              | true => rfl
              | false => exact absurd (greedy rfl rfl) (Nat.succ_ne_zero count)
            subst ended
            exact Phrase.Stops.ofMark _ (by decide)
      have wrapped := member_step (ih (brackets count ++ rest) bound next (by omega))
      rw [wrapArrays_brackets count u rest (stops '[' (by decide))] at wrapped
      rw [List.append_assoc]
      exact wrapped
  | @nullable tokens u closed inner ih =>
      simp only [List.length_cons, Phrase.rank] at enough ih
      obtain ⟨bound, rfl⟩ : ∃ less, bound = less + 1 := ⟨bound - 1, by omega⟩
      exact primary_nullable (ih rest bound stops (by omega))
  | @group tokens u inner ih =>
      simp only [List.length_cons, List.length_append, List.length_nil, Phrase.rank] at enough ih
      obtain ⟨bound, rfl⟩ : ∃ less, bound = less + 1 := ⟨bound - 1, by omega⟩
      rw [List.cons_append, List.append_assoc]
      exact primary_group
        (ih (.ofMark ')' :: rest) bound (Phrase.Stops.ofMark _ (by decide)) (by omega))
  | string text =>
      simp only [List.length_cons, List.length_nil, Phrase.rank] at enough
      obtain ⟨bound, rfl⟩ : ∃ less, bound = less + 1 := ⟨bound - 1, by omega⟩
      simp only [List.cons_append, List.nil_append, read, primary]
  | number valued =>
      simp only [List.length_cons, List.length_nil, Phrase.rank] at enough
      obtain ⟨bound, rfl⟩ : ∃ less, bound = less + 1 := ⟨bound - 1, by omega⟩
      simp only [List.cons_append, List.nil_append, read, primary, valued, bind, Except.bind, pure,
        Except.pure]
  | @name name tokens u closed inner ih =>
      simp only [List.length_cons, Phrase.rank] at enough ih
      obtain ⟨bound, rfl⟩ : ∃ less, bound = less + 1 := ⟨bound - 1, by omega⟩
      have tail := ih rest bound (stops.mono (by cases closed <;> exact List.Subset.refl _))
        (by omega)
      simpa only [List.cons_append, read, primary] using tail
  | truth word =>
      simp only [List.length_nil, Phrase.rank] at enough
      obtain ⟨bound, rfl⟩ : ∃ less, bound = less + 1 := ⟨bound - 1, by omega⟩
      exact named_truth word
  | falsity word =>
      simp only [List.length_nil, Phrase.rank] at enough
      obtain ⟨bound, rfl⟩ : ∃ less, bound = less + 1 := ⟨bound - 1, by omega⟩
      exact named_falsity word
  | shape word inner ih =>
      simp only [List.length_cons, Phrase.rank] at enough ih
      obtain ⟨bound, rfl⟩ : ∃ less, bound = less + 1 := ⟨bound - 1, by omega⟩
      exact named_shape word (ih rest bound (Phrase.Stops.ofClosed _ rfl) (by omega))
  | @callableName name tokens u closed word inner ih =>
      simp only [List.length_cons, Phrase.rank] at enough ih
      obtain ⟨bound, rfl⟩ : ∃ less, bound = less + 1 := ⟨bound - 1, by omega⟩
      exact named_callable word
        (ih rest bound (stops.mono (by cases closed <;> exact List.Subset.refl _)) (by omega))
  | generic notTrue notFalse inner ih =>
      simp only [List.length_cons, List.length_append, List.length_nil, Phrase.rank] at enough ih
      obtain ⟨bound, rfl⟩ : ∃ less, bound = less + 1 := ⟨bound - 1, by omega⟩
      rw [List.cons_append, List.append_assoc]
      exact named_generic notTrue notFalse
        (ih (.ofMark '>' :: rest) bound (Phrase.Stops.ofMark _ (by decide)) (by omega))
  | plain notTrue notFalse =>
      simp only [List.length_nil, Phrase.rank] at enough
      obtain ⟨bound, rfl⟩ : ∃ less, bound = less + 1 := ⟨bound - 1, by omega⟩
      exact named_plain notTrue notFalse (stops '\x7b' (by simp [Phrase.continues]))
        (stops '(' (by simp [Phrase.continues])) (stops '<' (by simp [Phrase.continues]))
  | argumentsOne inner ih =>
      simp only [Phrase.rank] at enough ih
      obtain ⟨bound, rfl⟩ : ∃ less, bound = less + 1 := ⟨bound - 1, by omega⟩
      exact unions_last (ih rest bound (stops.mono (by decide)) (by omega))
        (stops ',' (by decide))
  | @argumentsMore first others u us inner more ihFirst ihOthers =>
      simp only [List.length_cons, List.length_append, Phrase.rank] at enough ihFirst ihOthers
      obtain ⟨bound, rfl⟩ : ∃ less, bound = less + 1 := ⟨bound - 1, by omega⟩
      rw [List.append_assoc, List.cons_append]
      exact unions_step
        (ihFirst (.ofMark ',' :: (others ++ rest)) bound (Phrase.Stops.ofMark _ (by decide))
          (by omega))
        (ihOthers rest bound stops (by omega))
  | parametersNone => simp [read]
  | @parametersSome tokens us inner ih =>
      simp only [List.length_append, List.length_cons, List.length_nil, Phrase.rank] at enough ih
      rw [List.append_assoc]
      have list := ih (.ofMark ')' :: rest) bound (Phrase.Stops.ofMark _ (by decide)) (by omega)
      exact parameters_some (accept?_of_unions list) list
  | @withoutResult tokens parameters inner ih =>
      simp only [Phrase.rank] at enough ih
      obtain ⟨bound, rfl⟩ : ∃ less, bound = less + 1 := ⟨bound - 1, by omega⟩
      exact callable_plain (ih rest bound (Phrase.Stops.ofClosed _ rfl) (by omega))
        (stops ':' (by decide))
  | @withResult tokens result parameters u inner member ihParameters ihResult =>
      simp only [List.length_append, List.length_cons, Phrase.rank] at enough ihParameters ihResult
      obtain ⟨bound, rfl⟩ : ∃ less, bound = less + 1 := ⟨bound - 1, by omega⟩
      rw [List.append_assoc, List.cons_append]
      exact callable_result
        (ihParameters (.ofMark ':' :: (result ++ rest)) bound
          (Phrase.Stops.ofClosed _ rfl) (by omega))
        (ihResult rest bound (stops.mono (List.Subset.refl _)) (by omega))
  | itemsNone =>
      simp only [List.length_cons, List.length_nil, Phrase.rank] at enough
      obtain ⟨bound, rfl⟩ : ∃ less, bound = less + 1 := ⟨bound - 1, by omega⟩
      simp [read, shapeItems]
  | @itemsLast token key tokens u optional accepted inner ih =>
      simp only [List.length_cons, List.length_append, List.length_nil, Phrase.rank] at enough ih
      obtain ⟨bound, rfl⟩ : ∃ less, bound = less + 1 := ⟨bound - 1, by omega⟩
      simp only [List.cons_append, List.append_assoc, List.nil_append]
      exact shapeItems_last optional accepted
        (ih (.ofMark '\x7d' :: rest) bound (Phrase.Stops.ofMark _ (by decide)) (by omega))
  | @itemsMore token key tokens others u items optional accepted inner more ihType ihOthers =>
      simp only [List.length_cons, List.length_append, Phrase.rank] at enough ihType ihOthers
      obtain ⟨bound, rfl⟩ : ∃ less, bound = less + 1 := ⟨bound - 1, by omega⟩
      simp only [List.cons_append, List.append_assoc]
      exact shapeItems_step optional accepted
        (ihType (.ofMark ',' :: (others ++ rest)) bound (Phrase.Stops.ofMark _ (by decide))
          (by omega))
        (ihOthers rest bound (Phrase.Stops.ofClosed _ rfl) (by omega))

end PhpHooks.TypeExpr
