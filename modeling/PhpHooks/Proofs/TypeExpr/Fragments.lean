import PhpHooks.Proofs.TypeExpr.Concatenation
import PhpHooks.Proofs.TypeExpr.Readable
import PhpHooks.Proofs.TypeExpr.RoundTrip
import PhpHooks.Proofs.TypeExpr.Sameness

set_option autoImplicit false

/-!
Type texts with bars between them. A bar cannot come between the parts of a type, so the joined text
spells the union of what the texts spell, and its widened type is the union of their widened types.
-/
namespace PhpHooks

namespace TypeExpr

/-- More alternatives behind alternatives. -/
theorem Derives.alternatives_append {front back : List Lexeme} {u v : UnionType} :
    Derives true .alternatives front u → Derives true .alternatives back v →
    Derives true .alternatives (front ++ back) (u ++ v)
  | .alternativesNone, second => second
  | .alternativesMore first others, second => by
      have all := first.alternativesMore (others.alternatives_append second)
      simpa using all
termination_by front.length
decreasing_by simp only [List.length_cons, List.length_append]; omega

/-- Two unions with a bar between them are one union. -/
theorem Derives.union_joined {front back : List Lexeme} {u v : UnionType}
    (first : Derives true .union front u) (second : Derives true .union back v) :
    Derives true .union (front ++ .ofMark '|' :: back) (UnionType.distinct (u ++ v)) := by
  cases first with
  | @union first others a b member alternatives =>
      cases second with
      | @union first' others' a' b' member' alternatives' =>
          have all := member.union (alternatives.alternatives_append
            (member'.alternativesMore alternatives'))
          rw [UnionType.distinct_distinct_append, UnionType.distinct_append_distinct]
          simpa using all

/-- A text that has been read spells its type in front of anything that is separated from it. -/
theorem spells_of_parse {t : Text} {u : UnionType} (parsed : parse t = .ok u) :
    Spells .union t u := by
  cases lexed : Lexeme.tokens t with
  | error stray => simp [parse, lexed] at parsed
  | ok tokens =>
      rw [parse_of_tokens lexed] at parsed
      exact ⟨tokens, (Lexeme.scans_of_tokens lexed).lexes,
        derives_of_ofTokens (clean_of_tokens lexed) parsed⟩

theorem spells_joined {fragments : List Text} {us : List UnionType} (filled : fragments ≠ [])
    (accepted : List.Forall₂ (fun t u => parse t = .ok u) fragments us) :
    Spells .union (Text.joined ['|'] fragments) (UnionType.distinct us.flatten) := by
  induction accepted with
  | nil => exact absurd rfl filled
  | @cons t u fragments us parsed others ih =>
      cases others with
      | nil =>
          have proper := (formed_of_parse parsed).1
          rw [Text.joined_singleton, List.flatten_singleton, UnionType.distinct_eq_self proper.2]
          exact spells_of_parse parsed
      | @cons t' u' fragments us parsed' others =>
          obtain ⟨first, firstLexes, front⟩ := spells_of_parse parsed
          obtain ⟨behind, behindLexes, back⟩ := ih (by simp)
          have joined := front.union_joined back
          rw [UnionType.distinct_append_distinct, ← List.flatten_cons] at joined
          rw [Text.joined_cons, List.append_assoc, List.singleton_append]
          exact ⟨_, firstLexes.between (by decide) behindLexes, joined⟩

end TypeExpr

theorem normalize_of_parse {t : Text} {u : UnionType} (parsed : TypeExpr.parse t = .ok u) :
    normalize (some t) = .ok (some u.widen) := by
  have readable : isReadable (some t) = true := by
    simp [isReadable, TypeExpr.overflows, parsed]
  rw [normalize_of_isReadable readable]
  simp [widened?, parsed, Except.toOption]

/-- Texts with bars between them spell the union of the types that they spell, in order and without
repetition, and the widened union is the union of the widened types. -/
theorem joined_fragments_spell_union (fragments : List Text) (us : List UnionType)
    (filled : fragments ≠ [])
    (accepted : List.Forall₂ (fun t u => TypeExpr.parse t = .ok u) fragments us) :
    TypeExpr.parse (Text.joined ['|'] fragments) = .ok (UnionType.distinct us.flatten) ∧
    ∃ vs : List UnionType,
      List.Forall₂ (fun t v => normalize (some t) = .ok (some v)) fragments vs ∧
      normalize (some (Text.joined ['|'] fragments)) =
        .ok (some (UnionType.distinct vs.flatten)) := by
  have parsed := TypeExpr.parse_of_spells (TypeExpr.spells_joined filled accepted)
  refine ⟨parsed, us.map UnionType.widen, ?_, ?_⟩
  · rw [List.forall₂_map_right_iff]
    exact accepted.imp fun t u => normalize_of_parse
  · rw [normalize_of_parse parsed, UnionType.widen_distinct_flatten]

section Example

/-- A callable, a number or nothing, and a certain number. -/
def callableNumberOne : List Text :=
  ["callable(): int[]".toList, "?int".toList, "1".toList]

def callableNumberOneTypes : List UnionType :=
  [[.callable [] (some [.named "array".toList [[.named "int".toList []]]])],
    [.named "int".toList [], .named "null".toList []], [.literal (.int 1)]]

theorem parse_nullableInt :
    TypeExpr.parse "?int".toList = .ok [.named "int".toList [], .named "null".toList []] := by
  have lexed : Lexeme.tokens "?int".toList = .ok [.ofMark '?', ⟨.name, "int".toList⟩] := by
    decide
  have derived := (TypeExpr.derives_int true).nullable.member 0 (by decide)
  rw [TypeExpr.parse_of_tokens lexed]
  exact TypeExpr.ofTokens_of_derives (derived.union .alternativesNone)

theorem parse_callableNumberOne :
    List.Forall₂ (fun t u => TypeExpr.parse t = .ok u) callableNumberOne
      callableNumberOneTypes := by
  refine .cons ?_ (.cons ?_ (.cons ?_ .nil))
  · rw [TypeExpr.parse_of_tokens TypeExpr.tokens_callableToIntArray]
    exact TypeExpr.ofTokens_of_derives TypeExpr.derives_callableToIntArray
  · exact parse_nullableInt
  · have spelled := TypeExpr.spells_int (n := 1) (Nat.one_lt_pow (by decide) (by decide))
    exact TypeExpr.parse_of_spells spelled.members.union

/-- The certain number is widened to a member that is there already. -/
theorem joined_callableNumberOne :
    TypeExpr.parse "callable(): int[]|?int|1".toList =
      .ok [.callable [] (some [.named "array".toList [[.named "int".toList []]]]),
        .named "int".toList [], .named "null".toList [], .literal (.int 1)] ∧
    normalize (some "callable(): int[]|?int|1".toList) =
      .ok (some [.callable [] (some [.named "array".toList [[.named "int".toList []]]]),
        .named "int".toList [], .named "null".toList []]) := by
  obtain ⟨parsed, vs, each, widened⟩ := joined_fragments_spell_union callableNumberOne
    callableNumberOneTypes (by decide) parse_callableNumberOne
  have expected : List.Forall₂ (fun t v => normalize (some t) = .ok (some v)) callableNumberOne
      (callableNumberOneTypes.map UnionType.widen) :=
    List.forall₂_map_right_iff.mpr (parse_callableNumberOne.imp fun t u => normalize_of_parse)
  have single : vs = callableNumberOneTypes.map UnionType.widen :=
    List.right_unique_forall₂' (fun t v w first second => by simpa [first] using second) each
      expected
  rw [single] at widened
  exact ⟨parsed, widened⟩

end Example

end PhpHooks
