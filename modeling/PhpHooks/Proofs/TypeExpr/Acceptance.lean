import Mathlib.Data.List.Induction
import PhpHooks.Proofs.TypeExpr.Lexing
import PhpHooks.Proofs.TypeExpr.Soundness

set_option autoImplicit false

/-!
The parser accepts the token lists of the greedy grammar and no others, and gives their values.
-/
namespace PhpHooks.TypeExpr

theorem clean_of_tokens {t : Text} {tokens : List Lexeme} (lexed : Lexeme.tokens t = .ok tokens) :
    Clean tokens := by
  rw [Lexeme.tokens_eq_scan] at lexed
  cases scanned : Lexeme.scan t with
  | error stray => simp [scanned, Except.map] at lexed
  | ok lexemes =>
      simp only [scanned, Except.map, Except.ok.injEq] at lexed
      intro token inside
      rw [← lexed] at inside
      exact (List.mem_filter.mp inside).2

theorem parse_of_tokens {t : Text} {tokens : List Lexeme} (lexed : Lexeme.tokens t = .ok tokens) :
    parse t = ofTokens tokens := by
  simp only [parse, lexed]

@[simp] theorem parse?_boundless (t : Text) : parse? t = some (parse t) := rfl

theorem ofTokens_of_derives {tokens : List Lexeme} {u : UnionType}
    (derived : Derives true .union tokens u) : ofTokens tokens = .ok u := by
  have found := derived.read_eq [] (6 * tokens.length + 6) (Phrase.Stops.nil _)
    (by simp only [Phrase.rank]; omega)
  simp only [List.append_nil, read] at found
  cases tokens with
  | nil => simp [union, member, primary, bind, Except.bind] at found
  | cons token tokens =>
      simp only [ofTokens, List.isEmpty_cons, Bool.false_eq_true, ↓reduceIte, found]

theorem derives_of_ofTokens {tokens : List Lexeme} {u : UnionType} (clean : Clean tokens)
    (accepted : ofTokens tokens = .ok u) : Derives true .union tokens u := by
  have promised := (sound (6 * tokens.length + 6)).union tokens clean
  simp only [ofTokens] at accepted
  split at accepted
  · cases accepted
  · split at accepted
    · cases accepted
    · next v found =>
        rw [found] at promised
        obtain ⟨used, split, derived⟩ := promised
        rw [List.append_nil] at split
        simp only [Except.ok.injEq] at accepted
        rw [split, ← accepted]
        exact derived
    · cases accepted

theorem malformed_of_ofTokens {tokens : List Lexeme} {fault : TypeFault} (clean : Clean tokens)
    (short : ∀ token ∈ tokens, token.isLongInteger = false)
    (refused : ofTokens tokens = .error fault) : ∃ cause, fault = .malformed cause := by
  have promised := (sound (6 * tokens.length + 6)).union tokens clean
  simp only [ofTokens] at refused
  split at refused
  · exact ⟨_, (Except.error.inj refused).symm⟩
  · split at refused
    · next cause found =>
        rw [← Except.error.inj refused]
        cases cause with
        | malformed cause => exact ⟨cause, rfl⟩
        | overflow cause =>
            rw [found] at promised
            obtain ⟨token, inside, long⟩ := promised
            exact absurd long (by simp [short token inside])
    · cases refused
    · exact ⟨_, (Except.error.inj refused).symm⟩

/-- A text without integers that are too long is accepted exactly if the greedy grammar derives its
tokens, with the one value that the grammar gives them; any other is malformed. -/
theorem parse_eq_ok_iff_derives (t : Text) (tokens : List Lexeme)
    (lexed : Lexeme.tokens t = .ok tokens)
    (short : ∀ token ∈ tokens, token.isLongInteger = false) :
    (∀ u, parse t = .ok u ↔ Derives true .union tokens u) ∧
    ((¬ ∃ u, Derives true .union tokens u) → ∃ cause, parse t = .error (.malformed cause)) ∧
    (∀ u v, Derives true .union tokens u → Derives true .union tokens v → u = v) := by
  have clean := clean_of_tokens lexed
  rw [parse_of_tokens lexed]
  refine ⟨?_, ?_, ?_⟩
  · intro u
    exact ⟨derives_of_ofTokens clean, ofTokens_of_derives⟩
  · intro none
    cases answer : ofTokens tokens with
    | ok u => exact absurd ⟨u, derives_of_ofTokens clean answer⟩ none
    | error fault =>
        obtain ⟨cause, rfl⟩ := malformed_of_ofTokens clean short answer
        exact ⟨cause, rfl⟩
  · intro u v first second
    have same := (ofTokens_of_derives first).symm.trans (ofTokens_of_derives second)
    exact Except.ok.inj same

def callableToIntArray : List Lexeme :=
  [⟨.name, "callable".toList⟩, .ofMark '(', .ofMark ')', .ofMark ':', ⟨.name, "int".toList⟩,
    .ofMark '[', .ofMark ']']

theorem tokens_callableToIntArray :
    Lexeme.tokens "callable(): int[]".toList = .ok callableToIntArray := by
  decide

theorem derives_int (greedy : Bool) :
    Derives greedy (.primary true) [⟨.name, "int".toList⟩] [.named "int".toList []] :=
  .name (.plain (by decide) (by decide))

theorem derives_callableToIntArray : Derives true .union callableToIntArray
    [.callable [] (some [.named "array".toList [[.named "int".toList []]]])] := by
  have result : Derives true .member [⟨.name, "int".toList⟩, .ofMark '[', .ofMark ']']
      [.named "array".toList [[.named "int".toList []]]] :=
    (derives_int true).member 1 (by decide)
  have callable : Derives true (.primary false) callableToIntArray
      [.callable [] (some [.named "array".toList [[.named "int".toList []]]])] :=
    .name (.callableName (by decide) (.withResult .parametersNone result))
  exact (callable.member 0 (by decide)).union .alternativesNone

/-- Brackets behind the result of a callable make an array of the result. -/
theorem parse_callableToIntArray :
    parse "callable(): int[]".toList =
      .ok [.callable [] (some [.named "array".toList [[.named "int".toList []]]])] := by
  have accepted := parse_eq_ok_iff_derives _ _ tokens_callableToIntArray (by decide)
  exact (accepted.1 _).mpr derives_callableToIntArray

/-- The grammar that leaves brackets free derives an array of callables as well, which is not what
the parser gives. -/
theorem not_parse_eq_ok_iff_derives_free :
    ¬ ∀ (t : Text) (tokens : List Lexeme), Lexeme.tokens t = .ok tokens →
      (∀ token ∈ tokens, token.isLongInteger = false) →
      ∀ u, parse t = .ok u ↔ Derives false .union tokens u := by
  intro claimed
  have result : Derives false .member [⟨.name, "int".toList⟩] [.named "int".toList []] :=
    (derives_int false).member 0 (by decide)
  have callable : Derives false (.primary false)
      [⟨.name, "callable".toList⟩, .ofMark '(', .ofMark ')', .ofMark ':', ⟨.name, "int".toList⟩]
      [.callable [] (some [.named "int".toList []])] :=
    .name (.callableName (by decide) (.withResult .parametersNone result))
  have whole := (callable.member 1 (by decide)).union .alternativesNone
  have parsed := (claimed _ _ tokens_callableToIntArray (by decide) _).mpr whole
  have actual := ofTokens_of_derives derives_callableToIntArray
  rw [parse_of_tokens tokens_callableToIntArray, actual] at parsed
  simp [UnionType.distinct, arraysOf] at parsed

end PhpHooks.TypeExpr
