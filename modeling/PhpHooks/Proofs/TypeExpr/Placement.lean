import PhpHooks.Proofs.TypeExpr.Concatenation

set_option autoImplicit false

/-!
Where the tokens of a text stand. The lexemes of a text follow one another from its beginning to its
end, so every character that no token covers is a blank; and since a token ends at a blank, the
same tokens with any other blanks between them are a text with the same meaning.
-/
namespace PhpHooks.Lexeme

open Text (isBlank)

def Placed.stop (placed : Placed) : Nat :=
  placed.position + placed.lexeme.text.length

/-- Whether a position is one of the lexeme's characters. -/
def Placed.Covers (placed : Placed) (index : Nat) : Prop :=
  placed.position ≤ index ∧ index < placed.stop

section Places

theorem le_position {start : Nat} {lexemes : List Lexeme} {placed : Placed}
    (inside : placed ∈ placeFrom start lexemes) : start ≤ placed.position := by
  induction lexemes generalizing start with
  | nil => cases inside
  | cons lexeme rest ih =>
      rw [placeFrom, List.mem_cons] at inside
      rcases inside with rfl | later
      · exact Nat.le_refl start
      · have behind := ih later
        omega

theorem pairwise_placeFrom (start : Nat) (lexemes : List Lexeme) :
    (placeFrom start lexemes).Pairwise (fun first second => first.stop ≤ second.position) := by
  induction lexemes generalizing start with
  | nil => exact List.Pairwise.nil
  | cons lexeme rest ih =>
      rw [placeFrom, List.pairwise_cons]
      refine ⟨?_, ih _⟩
      intro second later
      exact le_position later

/-- Lexemes that follow one another leave no gap. -/
theorem exists_covers {start index : Nat} {lexemes : List Lexeme} (lower : start ≤ index)
    (upper : index < start + (lexemes.flatMap Lexeme.text).length) :
    ∃ placed ∈ placeFrom start lexemes, placed.Covers index := by
  induction lexemes generalizing start with
  | nil =>
      rw [List.flatMap_nil, List.length_nil] at upper
      omega
  | cons lexeme rest ih =>
      rw [List.flatMap_cons, List.length_append] at upper
      by_cases first : index < start + lexeme.text.length
      · exact ⟨⟨lexeme, start⟩, List.mem_cons_self, lower, first⟩
      · have lower : start + lexeme.text.length ≤ index := by omega
        have ⟨placed, later, covers⟩ := ih lower (by omega)
        exact ⟨placed, List.mem_cons_of_mem _ later, covers⟩

theorem slice_placeFrom (front : Text) {lexemes : List Lexeme} {placed : Placed}
    (inside : placed ∈ placeFrom front.length lexemes) :
    ((front ++ lexemes.flatMap Lexeme.text).drop placed.position).take
      placed.lexeme.text.length = placed.lexeme.text := by
  induction lexemes generalizing front with
  | nil => cases inside
  | cons lexeme rest ih =>
      rw [placeFrom, List.mem_cons] at inside
      rw [List.flatMap_cons]
      rcases inside with rfl | later
      · rw [List.drop_left, List.take_left]
      · rw [← List.length_append] at later
        rw [← List.append_assoc]
        exact ih _ later

theorem mem_of_covers {t : Text} {placed : Placed} {index : Nat} {c : Char}
    (slice : (t.drop placed.position).take placed.lexeme.text.length = placed.lexeme.text)
    (covers : placed.Covers index) (here : t[index]? = some c) : c ∈ placed.lexeme.text := by
  have lower : placed.position ≤ index := covers.1
  have upper : index < placed.position + placed.lexeme.text.length := covers.2
  have within : index - placed.position < placed.lexeme.text.length := by omega
  have same : placed.position + (index - placed.position) = index := by omega
  apply List.mem_of_getElem? (i := index - placed.position)
  rw [← slice, List.getElem?_take_of_lt within, List.getElem?_drop, same, here]

end Places

section Scans

theorem isBlank_of_first? {t : Text} {lexeme : Lexeme} {after : Text}
    (found : first? t = some (lexeme, after)) (blank : lexeme.isToken = false) :
    ∀ c ∈ lexeme.text, isBlank c = true := by
  cases t with
  | nil => cases found
  | cons c t =>
      by_cases first : isBlank c = true
      · rw [first?_of_blank first, Option.some.injEq, Prod.mk.injEq] at found
        rw [← found.1, List.forall_mem_cons]
        exact ⟨first, fun d inside => mem_takeWhile inside⟩
      · have token := isToken_of_first? first found
        rw [blank] at token
        cases token

/-- The lexemes of a text make up the text, none is empty, and all but tokens are blanks. -/
theorem scan_spec {t : Text} {lexemes : List Lexeme} (scanned : scan t = .ok lexemes) :
    t = lexemes.flatMap Lexeme.text ∧ (∀ lexeme ∈ lexemes, lexeme.text ≠ []) ∧
      ∀ lexeme ∈ lexemes, lexeme.isToken = false → ∀ c ∈ lexeme.text, isBlank c = true := by
  induction lexemes generalizing t with
  | nil =>
      cases t with
      | nil => simp
      | cons c t =>
          rw [scan, List.length_cons, scanWithin_cons] at scanned
          split at scanned
          · cases scanned
          · split at scanned <;> cases scanned
  | cons lexeme rest ih =>
      obtain ⟨after, found, behind⟩ := first?_of_scan scanned
      obtain ⟨split, filled, -⟩ := first?_spec t found
      obtain ⟨whole, others, blanks⟩ := ih behind
      refine ⟨?_, List.forall_mem_cons.mpr ⟨filled, others⟩, ?_⟩
      · rw [List.flatMap_cons, ← whole]
        exact split
      · exact List.forall_mem_cons.mpr ⟨isBlank_of_first? found, blanks⟩

/-- The tokens are slices of the text, each behind the one before it, and the rest is blank. -/
structure Covering (t : Text) (tokens : List Placed) : Prop where
  filled : ∀ token ∈ tokens, token.lexeme.text ≠ []
  slices : ∀ token ∈ tokens,
    (t.drop token.position).take token.lexeme.text.length = token.lexeme.text
  ordered : tokens.Pairwise (fun first second => first.stop ≤ second.position)
  blank : ∀ index c, t[index]? = some c → (∀ token ∈ tokens, ¬ token.Covers index) →
    isBlank c = true

theorem covering_of_scan {t : Text} {lexemes : List Lexeme} (scanned : scan t = .ok lexemes) :
    Covering t ((placeFrom 0 lexemes).filter (·.lexeme.isToken)) := by
  obtain ⟨whole, filled, blanks⟩ := scan_spec scanned
  have slices : ∀ placed ∈ placeFrom 0 lexemes,
      (t.drop placed.position).take placed.lexeme.text.length = placed.lexeme.text := by
    intro placed inside
    rw [whole]
    exact slice_placeFrom [] inside
  have listed : ∀ placed ∈ placeFrom 0 lexemes, placed.lexeme ∈ lexemes := by
    intro placed inside
    rw [← map_lexeme_placeFrom 0 lexemes]
    exact List.mem_map_of_mem inside
  refine ⟨?_, ?_, (pairwise_placeFrom 0 lexemes).filter _, ?_⟩
  · intro token inside
    exact filled _ (listed token (List.mem_of_mem_filter inside))
  · intro token inside
    exact slices token (List.mem_of_mem_filter inside)
  · intro index c here bare
    have within : index < 0 + (lexemes.flatMap Lexeme.text).length := by
      have bound := (List.getElem?_eq_some_iff.mp here).1
      rw [← whole]
      omega
    obtain ⟨placed, inside, covers⟩ := exists_covers (Nat.zero_le index) within
    have noToken : placed.lexeme.isToken = false := by
      cases token : placed.lexeme.isToken with
      | false => rfl
      | true => exact absurd covers (bare placed (List.mem_filter.mpr ⟨inside, token⟩))
    have member := mem_of_covers (slices placed inside) covers here
    exact blanks _ (listed placed inside) noToken c member

theorem placedTokens_of_tokens {t : Text} {found : List Lexeme} (lexed : tokens t = .ok found) :
    ∃ placed, placedTokens t = .ok placed ∧ placed.map Placed.lexeme = found ∧
      Covering t placed := by
  rw [tokens] at lexed
  cases scanned : scan t with
  | error stray => simp [placedTokens, scanned, Except.map] at lexed
  | ok lexemes =>
      have placing : placedTokens t = .ok ((placeFrom 0 lexemes).filter (·.lexeme.isToken)) := by
        rw [placedTokens, scanned]
        rfl
      rw [placing] at lexed
      exact ⟨_, placing, Except.ok.inj lexed, covering_of_scan scanned⟩

end Scans

/-- The text has the lexemes in order, with at least one blank between neighbours. -/
inductive Laid : List Lexeme → Text → Prop
  | none : Laid [] []
  | one (lexeme : Lexeme) : Laid [lexeme] lexeme.text
  | more {lexeme next : Lexeme} {rest : List Lexeme} {gap t : Text} (filled : gap ≠ [])
      (blank : ∀ c ∈ gap, isBlank c = true) (others : Laid (next :: rest) t) :
      Laid (lexeme :: next :: rest) (lexeme.text ++ gap ++ t)

theorem lexes_blanks {gap t : Text} {found : List Lexeme} (blank : ∀ c ∈ gap, isBlank c = true)
    (lexes : Lexes t found) : Lexes (gap ++ t) found := by
  induction gap with
  | nil => exact lexes
  | cons c gap ih =>
      rw [List.forall_mem_cons] at blank
      exact Lexes.blank blank.1 (ih blank.2)

theorem separated_blanks {gap : Text} (filled : gap ≠ []) (blank : ∀ c ∈ gap, isBlank c = true)
    (t : Text) : Separated (gap ++ t) := by
  cases gap with
  | nil => exact absurd rfl filled
  | cons c gap =>
      apply Separated.cons
      rw [separates, blank c List.mem_cons_self, Bool.true_or]

/-- Blanks keep whole tokens apart, whichever blanks they are. -/
theorem Laid.lexes {found : List Lexeme} {t : Text} (laid : Laid found t)
    (whole : ∀ token ∈ found, token.Whole ∧ token.isToken = true) : Lexes t found := by
  induction laid with
  | none => exact Lexes.nil
  | one lexeme =>
      have alone := whole lexeme List.mem_cons_self
      exact Lexes.whole alone.1 alone.2
  | @more lexeme next rest gap t filled blank others ih =>
      rw [List.forall_mem_cons] at whole
      have first : Lexes lexeme.text [lexeme] := Lexes.whole whole.1.1 whole.1.2
      rw [List.append_assoc]
      exact first.append (lexes_blanks blank (ih whole.2)) (separated_blanks filled blank t)

theorem tokens_of_laid {t relaid : Text} {found : List Lexeme} (lexed : tokens t = .ok found)
    (laid : Laid found relaid) : tokens relaid = .ok found := by
  have lexes : Lexes relaid found := by
    apply laid.lexes
    intro token inside
    exact ⟨TypeExpr.whole_of_tokens lexed token inside,
      TypeExpr.clean_of_tokens lexed token inside⟩
  exact lexes.tokens_eq

/-- The tokens of a text cover all of it but blanks, and other blanks between them make a text with
the same tokens and the same type. -/
theorem tokens_cover_text (t : Text) :
    (∀ found, tokens t = .ok found →
      (∃ placed, placedTokens t = .ok placed ∧ placed.map Placed.lexeme = found ∧
        Covering t placed) ∧
      ∀ relaid, Laid found relaid → tokens relaid = .ok found) ∧
    ∀ u, TypeExpr.parse t = .ok u → ∃ found, tokens t = .ok found ∧
      ∀ relaid, Laid found relaid → TypeExpr.parse relaid = .ok u := by
  refine ⟨?_, ?_⟩
  · intro found lexed
    exact ⟨placedTokens_of_tokens lexed, fun relaid laid => tokens_of_laid lexed laid⟩
  · intro u parsed
    cases lexed : tokens t with
    | error stray => simp [TypeExpr.parse, lexed] at parsed
    | ok found =>
        refine ⟨found, rfl, ?_⟩
        intro relaid laid
        rw [TypeExpr.parse_of_tokens lexed] at parsed
        rw [TypeExpr.parse_of_tokens (tokens_of_laid lexed laid), parsed]

section Example

open TypeExpr (callableToIntArray)

def callablePlaced : List Placed :=
  [⟨⟨.name, "callable".toList⟩, 0⟩, ⟨.ofMark '(', 8⟩, ⟨.ofMark ')', 9⟩, ⟨.ofMark ':', 10⟩,
    ⟨⟨.name, "int".toList⟩, 12⟩, ⟨.ofMark '[', 15⟩, ⟨.ofMark ']', 16⟩]

theorem laid_callable : Laid callableToIntArray "callable\n( )\t \t: int [\x0b]".toList := by
  have spaces : ∀ gap : Text, gap.all isBlank = true → ∀ c ∈ gap, isBlank c = true :=
    fun gap all => List.all_eq_true.mp all
  exact .more (by decide) (spaces ['\n'] rfl)
    (.more (by decide) (spaces [' '] rfl)
    (.more (by decide) (spaces ['\t', ' ', '\t'] rfl)
    (.more (by decide) (spaces [' '] rfl)
    (.more (by decide) (spaces [' '] rfl)
    (.more (by decide) (spaces ['\x0b'] rfl) (.one _))))))

/-- Blanks behind every token of a type with marks next to one another. -/
theorem tokens_cover_callable :
    placedTokens "callable(): int[]".toList = .ok callablePlaced ∧
    Covering "callable(): int[]".toList callablePlaced ∧
    tokens "callable\n( )\t \t: int [\x0b]".toList = .ok callableToIntArray ∧
    TypeExpr.parse "callable\n( )\t \t: int [\x0b]".toList =
      .ok [.callable [] (some [.named "array".toList [[.named "int".toList []]]])] := by
  obtain ⟨lexing, parsing⟩ := tokens_cover_text "callable(): int[]".toList
  obtain ⟨⟨placed, placing, -, covering⟩, relaid⟩ := lexing _ TypeExpr.tokens_callableToIntArray
  have places : placedTokens "callable(): int[]".toList = .ok callablePlaced := by decide
  have same : placed = callablePlaced := by
    rw [placing] at places
    exact Except.ok.inj places
  obtain ⟨found, lexed, reparsed⟩ := parsing _ (by
    rw [TypeExpr.parse_of_tokens TypeExpr.tokens_callableToIntArray]
    exact TypeExpr.ofTokens_of_derives TypeExpr.derives_callableToIntArray)
  have tokensSame : found = callableToIntArray := by
    rw [TypeExpr.tokens_callableToIntArray] at lexed
    exact (Except.ok.inj lexed).symm
  rw [tokensSame] at reparsed
  exact ⟨places, same ▸ covering, relaid _ laid_callable, reparsed _ laid_callable⟩

end Example

end PhpHooks.Lexeme
