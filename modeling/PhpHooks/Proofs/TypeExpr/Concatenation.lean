import PhpHooks.Proofs.TypeExpr.Spelling

set_option autoImplicit false

/-!
Texts put behind one another. No scanner looks beyond a separator, so a text keeps its tokens when
a separated text follows it, however the tokens of the text itself stand together.
-/
namespace PhpHooks.Lexeme

open Text (isBlank isDigit isWord)

section Runs

variable {p : Char → Bool} {rest : Text}

theorem takeWhile_append_of_stops (t : Text) (stops : Stops p rest) :
    (t ++ rest).takeWhile p = t.takeWhile p := by
  induction t with
  | nil => rw [List.nil_append, takeWhile_of_stops stops, List.takeWhile_nil]
  | cons c t ih =>
      rw [List.cons_append, List.takeWhile_cons, List.takeWhile_cons, ih]

theorem dropWhile_append_of_stops (t : Text) (stops : Stops p rest) :
    (t ++ rest).dropWhile p = t.dropWhile p ++ rest := by
  induction t with
  | nil => rw [List.nil_append, dropWhile_of_stops stops, List.dropWhile_nil, List.nil_append]
  | cons c t ih =>
      rw [List.cons_append, List.dropWhile_cons, List.dropWhile_cons, ih]
      split <;> rfl

end Runs

section Numbers

variable {t rest text after : Text}

/-- What a text begins with does not change behind its end, if it is not empty. -/
theorem head_append_ne {c : Char} (other : ∀ more, t ≠ c :: more) (apart : ∀ more, rest ≠ c :: more)
    (more : Text) : t ++ rest ≠ c :: more := by
  cases t with
  | nil => exact apart more
  | cons d t =>
      intro same
      rw [List.cons_append, List.cons.injEq] at same
      exact other t (by rw [same.1])

theorem Separated.ne_cons {c : Char} (separated : Separated rest) (inner : separates c = false)
    (more : Text) : rest ≠ c :: more := by
  rintro rfl
  rw [separated c rfl] at inner
  cases inner

theorem mantissa?_append (separated : Separated rest) (found : mantissa? t = some (text, after)) :
    mantissa? (t ++ rest) = some (text, after ++ rest) := by
  have digits := separated.stops_isDigit
  have noPoint := separated.ne_cons (c := '.') (by decide)
  simp only [mantissa?, takeWhile_append_of_stops _ digits, dropWhile_append_of_stops _ digits]
  simp only [mantissa?] at found
  split at found
  · next more point =>
      rw [point, List.cons_append]
      simp only [takeWhile_append_of_stops _ digits, dropWhile_append_of_stops _ digits]
      split at found
      · cases found
      · next filled =>
          simp only [Option.some.injEq, Prod.mk.injEq] at found
          rw [if_neg filled, found.1, found.2]
  · next other =>
      split
      · next more point => exact absurd point (head_append_ne other noPoint more)
      · split at found
        · cases found
        · next filled =>
            simp only [Option.some.injEq, Prod.mk.injEq] at found
            rw [if_neg filled, found.1, found.2]

theorem exponentSign_append (separated : Separated rest) (t : Text) :
    exponentSign (t ++ rest) = ((exponentSign t).1, (exponentSign t).2 ++ rest) := by
  fun_cases exponentSign t with
  | case1 more => rfl
  | case2 more => rfl
  | case3 _ plus minus =>
      rw [exponentSign]
      · exact head_append_ne plus (separated.ne_cons (by decide))
      · exact head_append_ne minus (separated.ne_cons (by decide))

theorem exponent_append (separated : Separated rest) (t : Text) :
    exponent (t ++ rest) = ((exponent t).1, (exponent t).2 ++ rest) := by
  have digits := separated.stops_isDigit
  cases t with
  | nil => exact exponent_of_stops separated.stops_startsExponent
  | cons c t =>
      rw [List.cons_append, exponent_cons, exponent_cons, exponentSign_append separated]
      simp only [takeWhile_append_of_stops _ digits, dropWhile_append_of_stops _ digits]
      split
      · split <;> rfl
      · rfl

theorem numberSign_append (separated : Separated rest) (t : Text) :
    numberSign (t ++ rest) = ((numberSign t).1, (numberSign t).2 ++ rest) := by
  fun_cases numberSign t with
  | case1 more => rfl
  | case2 _ minus =>
      rw [numberSign]
      exact head_append_ne minus (separated.ne_cons (by decide))

theorem number?_append (separated : Separated rest) (found : number? t = some (text, after)) :
    number? (t ++ rest) = some (text, after ++ rest) := by
  rw [number?_eq] at found ⊢
  obtain ⟨⟨mantissa, behind⟩, scanned, same⟩ := Option.map_eq_some_iff.mp found
  simp only [Prod.mk.injEq] at same
  simp only [numberSign_append separated, mantissa?_append separated scanned, Option.map_some,
    exponent_append separated]
  rw [same.1, same.2]

end Numbers

section Names

variable {t rest text after : Text}

theorem plainName?_append (separated : Separated rest)
    (found : plainName? t = some (text, after)) :
    plainName? (t ++ rest) = some (text, after ++ rest) := by
  have ended := separated.stops_continuesName
  cases t with
  | nil => cases found
  | cons c t =>
      simp only [plainName?] at found
      simp only [List.cons_append, plainName?, takeWhile_append_of_stops _ ended,
        dropWhile_append_of_stops _ ended]
      split at found
      · next starts =>
          simp only [Option.some.injEq, Prod.mk.injEq] at found
          rw [if_pos starts, found.1, found.2]
      · cases found

theorem name?_append (separated : Separated rest) (found : name? t = some (text, after)) :
    name? (t ++ rest) = some (text, after ++ rest) := by
  fun_cases name? t with
  | case1 more word => simp [name?, word] at found
  | case2 more noWord =>
      have ended : ((more ++ rest).head?.map isWord).getD false = false := by
        cases more with
        | nil =>
            cases first : rest.head? with
            | none => simp [first]
            | some c => simp [first, (separates_excludes (separated c first)).2.1]
        | cons c more => simpa using noWord
      simp only [name?, noWord, Bool.false_eq_true, ↓reduceIte, Option.some.injEq,
        Prod.mk.injEq] at found
      simp only [List.cons_append, name?, ended, Bool.false_eq_true, ↓reduceIte]
      rw [found.1, found.2]
  | case3 more =>
      simp only [name?] at found
      obtain ⟨⟨name, behind⟩, scanned, same⟩ := Option.map_eq_some_iff.mp found
      simp only [Prod.mk.injEq] at same
      simp only [List.cons_append, name?, plainName?_append separated scanned, Option.map_some]
      rw [same.1, same.2]
  | case4 _ noThis noBackslash =>
      rw [name?] at found
      · obtain ⟨split, ⟨c, tail, begins, starts⟩, -⟩ := plainName?_spec t found
        have plain := plainName?_append separated found
        rw [split, begins, List.cons_append, List.cons_append] at plain ⊢
        rw [name?_of_plain _ starts, plain]
      · exact noThis
      · exact noBackslash

end Names

/-- The first token of a text stays the first one when a separated text follows. -/
theorem first?_append {t rest after : Text} {lexeme : Lexeme} (separated : Separated rest)
    (found : first? t = some (lexeme, after)) (token : lexeme.isToken = true) :
    first? (t ++ rest) = some (lexeme, after ++ rest) := by
  cases t with
  | nil => cases found
  | cons c t =>
      by_cases blank : isBlank c = true
      · rw [first?_of_blank blank, Option.some.injEq, Prod.mk.injEq] at found
        rw [← found.1] at token
        cases token
      cases string : string? (c :: t) with
      | some result =>
          obtain ⟨text, behind⟩ := result
          rw [first?_of_string string, Option.some.injEq, Prod.mk.injEq] at found
          obtain ⟨rfl, rfl⟩ := found
          obtain ⟨split, -, again⟩ := string?_spec _ string
          rw [split, List.append_assoc]
          have scanned := again (behind ++ rest)
          rw [← List.append_assoc, ← split] at scanned ⊢
          exact first?_of_string scanned
      | none =>
          cases number : number? (c :: t) with
          | some result =>
              obtain ⟨text, behind⟩ := result
              rw [first?_of_number number, Option.some.injEq, Prod.mk.injEq] at found
              obtain ⟨rfl, rfl⟩ := found
              exact first?_of_number (number?_append separated number)
          | none =>
              cases name : name? (c :: t) with
              | some result =>
                  obtain ⟨text, behind⟩ := result
                  rw [first?_of_name name, Option.some.injEq, Prod.mk.injEq] at found
                  obtain ⟨rfl, rfl⟩ := found
                  exact first?_of_name (name?_append separated name)
              | none =>
                  by_cases mark : isMark c = true
                  · rw [first?_of_mark mark, Option.some.injEq, Prod.mk.injEq] at found
                    obtain ⟨rfl, rfl⟩ := found
                    exact first?_of_mark mark
                  · simp [first?, blank, string, number, name, mark] at found

theorem isToken_of_first? {c : Char} {t : Text} {lexeme : Lexeme} {after : Text}
    (ink : ¬ isBlank c = true) (found : first? (c :: t) = some (lexeme, after)) :
    lexeme.isToken = true := by
  simp only [first?, List.takeWhile_cons_of_neg ink, List.isEmpty_nil, Bool.not_true,
    Bool.false_eq_true, ↓reduceIte] at found
  split at found
  · cases found
    rfl
  split at found
  · cases found
    rfl
  split at found
  · cases found
    rfl
  split at found
  · cases found
    rfl
  · cases found

/-- The text has these tokens, with blanks between them. -/
inductive Scans : Text → List Lexeme → Prop
  | nil : Scans [] []
  | blank {c : Char} {t : Text} {tokens : List Lexeme} : isBlank c = true → Scans t tokens →
      Scans (c :: t) tokens
  | token {t : Text} {lexeme : Lexeme} {after : Text} {tokens : List Lexeme} :
      first? t = some (lexeme, after) → lexeme.isToken = true → Scans after tokens →
      Scans t (lexeme :: tokens)

theorem scans_of_tokens {t : Text} {found : List Lexeme} (lexed : tokens t = .ok found) :
    Scans t found := by
  -- Every lexeme shortens what is left of the text.
  induction bound : t.length using Nat.strongRecOn generalizing t found with
  | ind length shorter =>
      cases t with
      | nil =>
          cases lexed
          exact .nil
      | cons c t =>
          by_cases blank : isBlank c = true
          · rw [tokens_cons_blank t blank] at lexed
            exact .blank blank (shorter _ (by simp [← bound]) lexed rfl)
          cases first : first? (c :: t) with
          | none =>
              rw [tokens_eq_scan, scan, List.length_cons, scanWithin_cons, first] at lexed
              cases lexed
          | some result =>
              obtain ⟨lexeme, after⟩ := result
              have isToken := isToken_of_first? blank first
              rw [tokens_of_first? first] at lexed
              cases behind : tokens after with
              | error stray => simp [behind, Except.map] at lexed
              | ok others =>
                  simp only [behind, Except.map, isToken, if_true, Except.ok.injEq] at lexed
                  rw [← lexed]
                  exact .token first isToken (shorter _ (bound ▸ length_after_lt first) behind rfl)

/-- The tokens of a text without blanks make up the text. -/
theorem Scans.flatMap_text {t : Text} {tokens : List Lexeme} (scans : Scans t tokens)
    (ink : ∀ c ∈ t, isBlank c = false) : tokens.flatMap Lexeme.text = t := by
  induction scans with
  | nil => rfl
  | @blank c t tokens blank _ _ =>
      rw [ink c List.mem_cons_self] at blank
      cases blank
  | @token t lexeme after tokens first _ _ ih =>
      have split := (first?_spec t first).1
      rw [split, List.forall_mem_append] at ink
      rw [List.flatMap_cons, ih ink.2, ← split]

/-- A text that has tokens gives the same ones in front of any separated text. -/
theorem Scans.lexes {t : Text} {found : List Lexeme} (scans : Scans t found) : Lexes t found := by
  induction scans with
  | nil => exact Lexes.nil
  | blank blank _ ih => exact Lexes.blank blank ih
  | token first isToken _ ih =>
      intro rest separated
      rw [tokens_of_first? (first?_append separated first isToken), ih rest separated]
      cases tokens rest with
      | error stray => rfl
      | ok more => simp [Except.map, isToken]

end PhpHooks.Lexeme
