import PhpHooks.Proofs.DocBlock.PrintedTypes
import PhpHooks.Proofs.TypeExpr.Concatenation
import PhpHooks.Proofs.TypeExpr.Pairing

set_option autoImplicit false

/-!
Type texts in parameter tags. The reader of a tag passes over every type text without blanks and
finds the variable behind it. It keeps the type if the brackets of the text are closed, where it
counts brackets in quoted strings too.
-/
namespace PhpHooks

namespace Lexeme

/-- A string ends in its quotation mark. -/
theorem stringTail?_getLast? {mark : Char} {t tail after : Text}
    (found : stringTail? mark t = some (tail, after)) : tail.getLast? = some mark := by
  fun_induction stringTail? mark t generalizing tail after with
  | case1 => cases found
  | case2 => cases found
  | case3 => cases found
  | case4 c rest _ ih =>
      obtain ⟨⟨inner, behind⟩, scanned, same⟩ := Option.map_eq_some_iff.mp found
      rw [← (Prod.mk.inj same).1]
      simp [List.getLast?_cons, ih scanned]
  | case5 c rest _ _ closing =>
      rw [Option.some.injEq, Prod.mk.injEq] at found
      rw [← found.1, List.getLast?_singleton, beq_iff_eq.mp closing]
  | case6 c rest _ _ _ ih =>
      obtain ⟨⟨inner, behind⟩, scanned, same⟩ := Option.map_eq_some_iff.mp found
      rw [← (Prod.mk.inj same).1]
      simp [List.getLast?_cons, ih scanned]

/-- The parts of a quoted string. -/
theorem string?_eq_some {t text after : Text} (found : string? t = some (text, after)) :
    ∃ mark rest tail, (mark = '\'' ∨ mark = '"') ∧ stringTail? mark rest = some (tail, after) ∧
      text = mark :: tail := by
  cases t with
  | nil => cases found
  | cons mark rest =>
      simp only [string?] at found
      split at found
      · next quote =>
          obtain ⟨⟨tail, behind⟩, scanned, same⟩ := Option.map_eq_some_iff.mp found
          obtain ⟨rfl, rfl⟩ := Prod.mk.inj same
          exact ⟨mark, rest, tail, by simpa using quote, scanned, rfl⟩
      · cases found

/-- No number begins with two points. -/
theorem number?_two_points (t : Text) : number? ('.' :: '.' :: t) = none := by
  simp [number?, mantissa?, point_not_digit]

/-- A number is not taken for the mark of further arguments. -/
theorem startsWith_spread_of_number {text : Text} (whole : number? text = some (text, []))
    (rest : Text) : Text.startsWith (text ++ rest) ['.', '.', '.'] = false := by
  cases text with
  | nil => cases whole
  | cons c tail =>
      by_cases point : c = '.'
      · subst point
        cases tail with
        | nil => simp [number?, mantissa?, point_not_digit] at whole
        | cons d tail =>
            have other : d ≠ '.' := by
              rintro rfl
              rw [number?_two_points] at whole
              cases whole
            simp [Text.startsWith, List.isPrefixOf, other.symm]
      · exact ParamTag.startsWith_spread_of_ne point _

/-- A token that is not a mark is a quoted string, or a number or a name. -/
theorem Whole.word_cases {token : Lexeme} (whole : token.Whole) (isToken : token.isToken = true)
    (kind : token.kind ≠ .mark) :
    (token.kind = .string ∧ string? token.text = some (token.text, [])) ∨
      (number? token.text = some (token.text, []) ∨ name? token.text = some (token.text, [])) ∧
        ∀ c ∈ token.text, isTokenChar c = true := by
  obtain ⟨sort, text⟩ := token
  have scanned := first?_cases whole
  cases sort with
  | blank => cases isToken
  | string => exact Or.inl ⟨rfl, scanned⟩
  | number => exact Or.inr ⟨Or.inl scanned, number?_chars scanned⟩
  | name => exact Or.inr ⟨Or.inr scanned, (name?_chars scanned).1⟩
  | mark => exact absurd rfl kind

/-- A text that ends in a token ends in a character that does not ask for more, unless the token
does. -/
theorem Whole.ends {token : Lexeme} (whole : token.Whole) (isToken : token.isToken = true)
    (last : token.asksForMore = false) :
    ∃ c ∈ token.text.getLast?, Text.isBlank c = false ∧ c ≠ '|' ∧ c ≠ ':' ∧ c ≠ ',' := by
  by_cases kind : token.kind = .mark
  · obtain ⟨sort, text⟩ := token
    obtain rfl : sort = .mark := kind
    obtain ⟨c, rfl, mark⟩ := first?_cases whole
    refine ⟨c, rfl, (isMark_excludes mark).1, ?_⟩
    simpa [asksForMore, ofMark, and_assoc] using last
  · rcases whole.word_cases isToken kind with ⟨-, string⟩ | ⟨-, chars⟩
    · obtain ⟨mark, rest, tail, quote, scanned, same⟩ := string?_eq_some string
      refine ⟨mark, ?_, ?_⟩
      · rw [same, Option.mem_def, List.getLast?_cons, stringTail?_getLast? scanned]
        rfl
      · rcases quote with rfl | rfl <;> decide
    · obtain ⟨-, filled, -⟩ := first?_spec _ whole
      obtain ⟨blank, mark, -⟩ := isTokenChar_excludes (chars _ (List.getLast_mem filled))
      refine ⟨_, List.getLast?_eq_some_getLast filled, blank, ?_⟩
      simp only [isMark, Bool.or_eq_false_iff, beq_eq_false_iff_ne] at mark
      simp [mark]

end Lexeme

namespace ParamTag

section Quotes

open Lexeme (stringTail? string?)

variable {brackets : List Char}

/-- Inside quotes, reading a type goes on to where the string ends. -/
theorem splitType_quoted {mark : Char} {t tail after : Text}
    (found : stringTail? mark t = some (tail, after)) (last : Option Char) (rest : Text) :
    splitType ⟨brackets, some mark, last⟩ (tail ++ rest) =
      (tail ++ (splitType ⟨brackets, none, lastInk last tail⟩ rest).1,
        (splitType ⟨brackets, none, lastInk last tail⟩ rest).2) := by
  -- Up to the closing mark both readers take one character at a time, or two with a backslash.
  fun_induction stringTail? mark t generalizing tail after last with
  | case1 => cases found
  | case2 => cases found
  | case3 => cases found
  | case4 c more _ ih =>
      obtain ⟨⟨inner, behind⟩, scanned, same⟩ := Option.map_eq_some_iff.mp found
      rw [← (Prod.mk.inj same).1]
      simp [splitType, ih scanned, lastInk]
  | case5 c more alone escape closing =>
      have ordinary := Lexeme.ne_backslash alone escape
      rw [Option.some.injEq, Prod.mk.injEq] at found
      rw [← found.1]
      simp [splitType, ordinary, closing, lastInk]
  | case6 c more alone escape other ih =>
      have ordinary := Lexeme.ne_backslash alone escape
      obtain ⟨⟨inner, behind⟩, scanned, same⟩ := Option.map_eq_some_iff.mp found
      rw [← (Prod.mk.inj same).1]
      simp [splitType, ordinary, other, ih scanned, lastInk]

theorem passes_string {t text after : Text} (found : string? t = some (text, after)) :
    Passes brackets brackets text := by
  obtain ⟨mark, rest, tail, quote, scanned, rfl⟩ := Lexeme.string?_eq_some found
  intro last more
  have blank : Text.isBlank mark = false := by
    rcases quote with rfl | rfl <;> decide
  have opens : Reading.advance ⟨brackets, none, last⟩ mark = ⟨brackets, some mark, some mark⟩ := by
    simp [Reading.advance, blank, quote]
  rw [List.cons_append, splitType_go_on (stopsAt_of_ink blank _), opens,
    splitType_quoted scanned, lastInk_cons blank]
  rfl

end Quotes

section Tokens

variable {tokens : List Lexeme}

theorem passes_word {brackets : List Char} (closers : ∀ b ∈ brackets, isBracket b = true)
    {token : Lexeme} (whole : token.Whole) (isToken : token.isToken = true)
    (kind : token.kind ≠ .mark) : Passes brackets brackets token.text := by
  rcases whole.word_cases isToken kind with ⟨-, string⟩ | ⟨-, chars⟩
  · exact passes_string string
  · have nested : Nested false token.text := nested_of_isTokenChar chars
    exact passes_nested nested closers (by simp)

/-- Reading a type passes over tokens whose brackets stand in pairs. -/
theorem passes_tokens (paired : Paired tokens)
    (whole : ∀ token ∈ tokens, token.Whole ∧ token.isToken = true) :
    ∀ {brackets : List Char}, (∀ b ∈ brackets, isBracket b = true) →
      Passes brackets brackets (tokens.flatMap Lexeme.text) := by
  induction paired with
  | nil =>
      intro brackets closers last rest
      rfl
  | word kind _ ih =>
      intro brackets closers
      rw [List.forall_mem_cons] at whole
      exact (passes_word closers whole.1.1 whole.1.2 kind).append (ih whole.2 closers)
  | mark ink _ ih =>
      intro brackets closers
      rw [List.forall_mem_cons] at whole
      exact (passes_ink closers ink).append (ih whole.2 closers)
  | group pair _ _ ihInner ihBehind =>
      intro brackets closers
      rw [List.forall_mem_cons, List.forall_mem_append, List.forall_mem_cons] at whole
      obtain ⟨-, -, -, -, -, -, -, bracket⟩ := closing?_spec pair
      have inside := ihInner whole.2.1 (List.forall_mem_cons.mpr ⟨bracket, closers⟩)
      have group := inside.group pair (ihBehind whole.2.2.2 closers)
      simpa [Lexeme.ofMark] using group

/-- Tokens whose brackets stand in pairs leave the depth as it was, if all strings among them do. -/
theorem level_tokens (paired : Paired tokens)
    (whole : ∀ token ∈ tokens, token.Whole ∧ token.isToken = true)
    (strings : ∀ token ∈ tokens, token.kind = .string → isBalanced token.text = true) :
    Level (tokens.flatMap Lexeme.text) := by
  induction paired with
  | nil => exact fun depth rest => rfl
  | word kind _ ih =>
      rw [List.forall_mem_cons] at whole strings
      refine Level.append ?_ (ih whole.2 strings.2)
      rcases whole.1.1.word_cases whole.1.2 kind with ⟨string, -⟩ | ⟨-, chars⟩
      · exact level_of_isBalanced (strings.1 string)
      · have nested : Nested false _ := nested_of_isTokenChar chars
        exact level_nested nested
  | mark ink _ ih =>
      rw [List.forall_mem_cons] at whole strings
      exact (level_of_not_bracket (isInk_excludes ink).2.2.2).append (ih whole.2 strings.2)
  | group pair _ _ ihInner ihBehind =>
      rw [List.forall_mem_cons, List.forall_mem_append, List.forall_mem_cons] at whole strings
      have group := (ihInner whole.2.1 strings.2.1).group pair (ihBehind whole.2.2.2 strings.2.2.2)
      simpa [Lexeme.ofMark] using group

end Tokens

section Spans

theorem parameter?_token {token : Lexeme} (whole : token.Whole) (isToken : token.isToken = true)
    (starts : token.startsType = true) (noThis : token.text ≠ "$this".toList) (rest : Text) :
    parameter? (token.text ++ rest) = none := by
  by_cases kind : token.kind = .mark
  · simp only [Lexeme.startsType, kind, bne_self_eq_false, Bool.false_or, Bool.or_eq_true,
      beq_iff_eq] at starts
    rcases starts with rfl | rfl
    · exact parameter?_eq_none (by decide) (by decide) rfl
    · exact parameter?_eq_none (by decide) (by decide) rfl
  rcases whole.word_cases isToken kind with ⟨-, string⟩ | ⟨number | name, -⟩
  · obtain ⟨mark, -, tail, quote, -, same⟩ := Lexeme.string?_eq_some string
    rw [same]
    rcases quote with rfl | rfl
    · exact parameter?_eq_none (by decide) (by decide) rfl
    · exact parameter?_eq_none (by decide) (by decide) rfl
  · have noSpread := Lexeme.startsWith_spread_of_number number rest
    obtain ⟨-, ⟨c, tail, same, first⟩, -⟩ := Lexeme.number?_spec _ number
    rw [same] at noSpread ⊢
    refine parameter?_eq_none ?_ ?_ noSpread
    · rintro rfl
      exact absurd first (by decide)
    · rintro rfl
      exact absurd first (by decide)
  · rcases (Lexeme.name?_chars name).2 with this | ⟨c, first, starts⟩
    · exact absurd this noThis
    obtain ⟨tail, same⟩ := List.head?_eq_some_iff.mp first
    rw [same]
    refine parameter?_eq_none ?_ ?_ (startsWith_spread_of_ne ?_ _)
    · rintro rfl
      exact absurd starts (by decide)
    · rintro rfl
      exact absurd starts (by decide)
    · rintro rfl
      exact absurd starts (by decide)

/-- The tokens of a type make up a text that is read up to its end in front of a variable. -/
theorem span_tokens {tokens : List Lexeme} (outline : TypeOutline tokens)
    (whole : ∀ token ∈ tokens, token.Whole ∧ token.isToken = true)
    (ink : ∀ c ∈ tokens.flatMap Lexeme.text, Text.isBlank c = false)
    (noThis : Text.startsWith (tokens.flatMap Lexeme.text) "$this".toList = false) :
    TypeSpan (tokens.flatMap Lexeme.text) := by
  obtain ⟨token, begins, starts⟩ := outline.begins
  obtain ⟨more, rfl⟩ := List.head?_eq_some_iff.mp begins
  obtain ⟨first, isToken⟩ := whole token List.mem_cons_self
  refine ⟨passes_tokens outline.paired whole (by simp), ?_, ?_, ?_⟩
  -- Only the first token decides whether there is a variable, and only the last one how it ends.
  · intro rest
    rw [List.flatMap_cons, List.append_assoc]
    refine parameter?_token first isToken starts ?_ _
    intro this
    rw [List.flatMap_cons, this, Text.startsWith,
      List.isPrefixOf_iff_prefix.mpr (List.prefix_append _ _)] at noThis
    cases noThis
  · obtain ⟨-, filled, -⟩ := Lexeme.first?_spec _ first
    obtain ⟨c, tail, same⟩ := List.exists_cons_of_ne_nil filled
    rw [List.flatMap_cons, same] at ink ⊢
    exact ⟨c, rfl, ink c List.mem_cons_self⟩
  · obtain ⟨front, last, same⟩ : ∃ front last, token :: more = front ++ [last] :=
      ⟨_, _, (List.dropLast_concat_getLast (List.cons_ne_nil token more)).symm⟩
    rw [same] at outline whole ⊢
    obtain ⟨ends, isLast⟩ := whole last (by simp)
    obtain ⟨c, final, dark⟩ := ends.ends isLast (outline.ends last List.getLast?_concat)
    rw [Option.mem_def] at final
    exact ⟨c, by simp [final], dark⟩

end Spans

/-- A type text without blanks in front of a variable is kept as it is, if its brackets are counted
as closed; otherwise the tag has neither type nor variable. The count fails only if it fails in one
of the quoted strings of the text. -/
theorem ofContent_accepted_type (t : Text) (u : UnionType)
    (ink : ∀ c ∈ t, Text.isBlank c = false) (parsed : TypeExpr.parse t = .ok u)
    (noThis : Text.startsWith t "$this".toList = false) :
    ofContent (t ++ " $x".toList) =
      (if isBalanced t then ⟨some t, some "$x".toList, []⟩
      else ⟨none, none, t ++ " $x".toList⟩) ∧
    (isBalanced t = false → ∃ tokens, Lexeme.tokens t = .ok tokens ∧
      ∃ token ∈ tokens, token.kind = .string ∧ isBalanced token.text = false) := by
  cases lexed : Lexeme.tokens t with
  | error stray => simp [TypeExpr.parse, lexed] at parsed
  | ok tokens =>
      rw [TypeExpr.parse_of_tokens lexed] at parsed
      have clean := TypeExpr.clean_of_tokens lexed
      have outline := (TypeExpr.derives_of_ofTokens clean parsed).outline
      have whole : ∀ token ∈ tokens, token.Whole ∧ token.isToken = true :=
        fun token inside => ⟨TypeExpr.whole_of_tokens lexed token inside, clean token inside⟩
      obtain rfl := (Lexeme.scans_of_tokens lexed).flatMap_text ink
      refine ⟨?_, ?_⟩
      · have word : ∀ c ∈ ['x'], Text.isWord c = true := List.forall_mem_singleton.mpr (by decide)
        exact (span_tokens outline whole ink noThis).ofContent_eq (by simp) word
      · intro unbalanced
        by_cases each : ∀ token ∈ tokens, token.kind = .string → isBalanced token.text = true
        · rw [(level_tokens outline.paired whole each).isBalanced] at unbalanced
          cases unbalanced
        · exact ⟨tokens, rfl, by simpa using each⟩

section Example

/-- A quoted string with brackets in it, or a list of integers. -/
def quotedOrIntegers : Text :=
  "'(a)'|int[]".toList

theorem ink_of_all {t : Text} (dark : t.all (fun c => !Text.isBlank c) = true) :
    ∀ c ∈ t, Text.isBlank c = false := by
  simpa using dark

theorem derives_quoted (text : Text) :
    TypeExpr.Derives true .member [⟨.string, text⟩]
      [.literal (.string (TypeExpr.stringValue text))] :=
  (TypeExpr.Derives.string text).member 0 (by decide)

theorem parse_quotedOrIntegers : TypeExpr.parse quotedOrIntegers =
    .ok [.literal (.string "(a)".toList), .named "array".toList [[.named "int".toList []]]] := by
  have lexed : Lexeme.tokens quotedOrIntegers =
      .ok [⟨.string, "'(a)'".toList⟩, .ofMark '|', ⟨.name, "int".toList⟩, .ofMark '[',
        .ofMark ']'] := by
    decide
  have integers := (TypeExpr.derives_int true).member 1 (by decide)
  have derived := (derives_quoted "'(a)'".toList).union
    (integers.alternativesMore .alternativesNone)
  rw [TypeExpr.parse_of_tokens lexed]
  exact TypeExpr.ofTokens_of_derives derived

/-- The brackets in the string are counted, and they are closed. -/
theorem ofContent_quotedOrIntegers :
    ofContent (quotedOrIntegers ++ " $x".toList) =
      ⟨some quotedOrIntegers, some "$x".toList, []⟩ := by
  have ink : ∀ c ∈ quotedOrIntegers, Text.isBlank c = false := ink_of_all (by decide)
  have balanced : isBalanced quotedOrIntegers = true := by decide
  have noThis : Text.startsWith quotedOrIntegers "$this".toList = false := by decide
  have read := (ofContent_accepted_type quotedOrIntegers _ ink parse_quotedOrIntegers noThis).1
  rwa [if_pos balanced] at read

/-- A bracket in a quoted string may cost the tag its type. -/
theorem not_ofContent_keeps_accepted :
    ¬ ∀ (t : Text) (u : UnionType), (∀ c ∈ t, Text.isBlank c = false) →
      TypeExpr.parse t = .ok u → Text.startsWith t "$this".toList = false →
      ofContent (t ++ " $x".toList) = ⟨some t, some "$x".toList, []⟩ := by
  intro keeps
  have lexed : Lexeme.tokens "'<'".toList = .ok [⟨.string, "'<'".toList⟩] := by decide
  have parsed : TypeExpr.parse "'<'".toList = .ok [.literal (.string "<".toList)] := by
    rw [TypeExpr.parse_of_tokens lexed]
    exact TypeExpr.ofTokens_of_derives ((derives_quoted "'<'".toList).union .alternativesNone)
  have ink : ∀ c ∈ "'<'".toList, Text.isBlank c = false := ink_of_all (by decide)
  have kept := keeps "'<'".toList _ ink parsed (by decide)
  have lost : ofContent ("'<'".toList ++ " $x".toList) = ⟨none, none, "'<' $x".toList⟩ := by
    decide
  rw [lost] at kept
  cases kept

end Example

end ParamTag
end PhpHooks
