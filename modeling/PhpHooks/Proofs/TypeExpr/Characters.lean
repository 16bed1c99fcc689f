import PhpHooks.Proofs.TypeExpr.Formed

set_option autoImplicit false

/-!
The characters of names and numbers. None of them is a blank, a mark or a quotation mark, so a name
or a number means the same to every scanner that looks for one of these only.
-/
namespace PhpHooks.Lexeme

open Text (isBlank isDigit isWord)

/-- Characters that names and numbers are made of. -/
def isTokenChar (c : Char) : Bool :=
  isDigit c || continuesName c || c == '$' || c == '.' || c == '+'

section Classes

variable {c : Char}

theorem isTokenChar_of_isDigit (digit : isDigit c = true) : isTokenChar c = true := by
  simp [isTokenChar, digit]

theorem isTokenChar_of_continuesName (continues : continuesName c = true) :
    isTokenChar c = true := by
  simp [isTokenChar, continues]

theorem continuesName_of_startsName (starts : startsName c = true) : continuesName c = true := by
  simp only [startsName, Bool.or_eq_true] at starts
  rcases starts with letter | underscore
  · simp [continuesName, letter]
  · simp [continuesName, underscore]

theorem isTokenChar_excludes (token : isTokenChar c = true) :
    isBlank c = false ∧ isMark c = false ∧ c ≠ '\'' ∧ c ≠ '"' := by
  have apart : separates c = false := by
    cases separator : separates c with
    | false => rfl
    | true =>
        obtain ⟨digit, -, name, -⟩ := separates_excludes separator
        simp only [isTokenChar, digit, name, Bool.false_or, Bool.or_eq_true, beq_iff_eq] at token
        rcases token with (rfl | rfl) | rfl
        · exact absurd separator (by decide)
        · exact absurd separator (by decide)
        · exact absurd separator (by decide)
  rw [separates, Bool.or_eq_false_iff] at apart
  refine ⟨apart.1, apart.2, ?_, ?_⟩
  · rintro rfl
    exact absurd token (by decide)
  · rintro rfl
    exact absurd token (by decide)

end Classes

section Numbers

theorem isTokenChar_of_mem_takeWhile {t : Text} {c : Char} (inside : c ∈ t.takeWhile isDigit) :
    isTokenChar c = true :=
  isTokenChar_of_isDigit (mem_takeWhile inside)

theorem mantissa?_chars {t text after : Text} (found : mantissa? t = some (text, after)) :
    ∀ c ∈ text, isTokenChar c = true := by
  have point : isTokenChar '.' = true := by decide
  simp only [mantissa?] at found
  split at found
  · split at found
    · cases found
    · simp only [Option.some.injEq, Prod.mk.injEq] at found
      rw [← found.1, List.forall_mem_append, List.forall_mem_cons]
      exact ⟨fun c => isTokenChar_of_mem_takeWhile, point, fun c => isTokenChar_of_mem_takeWhile⟩
  · split at found
    · cases found
    · simp only [Option.some.injEq, Prod.mk.injEq] at found
      rw [← found.1]
      exact fun c => isTokenChar_of_mem_takeWhile

theorem exponentSign_chars (t : Text) : ∀ c ∈ (exponentSign t).1, isTokenChar c = true := by
  fun_cases exponentSign t with
  | case1 more => exact List.forall_mem_singleton.mpr (by decide)
  | case2 more => exact List.forall_mem_singleton.mpr (by decide)
  | case3 plus minus => simp

theorem exponent_chars (t : Text) : ∀ c ∈ (exponent t).1, isTokenChar c = true := by
  cases t with
  | nil => simp [exponent]
  | cons c t =>
      rw [exponent_cons]
      split
      · next starts =>
          split
          · simp
          · have letter : isTokenChar c = true := by
              simp only [startsExponent, Bool.or_eq_true, beq_iff_eq] at starts
              rcases starts with rfl | rfl <;> decide
            rw [List.cons_append, List.forall_mem_cons, List.forall_mem_append]
            exact ⟨letter, exponentSign_chars t, fun c => isTokenChar_of_mem_takeWhile⟩
      · simp

theorem numberSign_chars (t : Text) : ∀ c ∈ (numberSign t).1, isTokenChar c = true := by
  fun_cases numberSign t with
  | case1 rest => exact List.forall_mem_singleton.mpr (by decide)
  | case2 other => simp

theorem number?_chars {t text after : Text} (found : number? t = some (text, after)) :
    ∀ c ∈ text, isTokenChar c = true := by
  rw [number?_eq] at found
  obtain ⟨⟨mantissa, behind⟩, scanned, same⟩ := Option.map_eq_some_iff.mp found
  simp only [Prod.mk.injEq] at same
  rw [← same.1, List.forall_mem_append, List.forall_mem_append]
  exact ⟨⟨numberSign_chars t, mantissa?_chars scanned⟩, exponent_chars behind⟩

end Numbers

section Names

theorem plainName?_chars {t text after : Text} (found : plainName? t = some (text, after)) :
    (∀ c ∈ text, isTokenChar c = true) ∧ ∃ c ∈ text.head?, startsName c = true := by
  cases t with
  | nil => cases found
  | cons c t =>
      simp only [plainName?] at found
      split at found
      · next starts =>
          simp only [Option.some.injEq, Prod.mk.injEq] at found
          rw [← found.1, List.forall_mem_cons]
          have first := isTokenChar_of_continuesName (continuesName_of_startsName starts)
          exact ⟨⟨first, fun d inside => isTokenChar_of_continuesName (mem_takeWhile inside)⟩,
            c, rfl, starts⟩
      · cases found

/-- A name is made of token characters, and only the variable begins with a dollar sign. -/
theorem name?_chars {t text after : Text} (found : name? t = some (text, after)) :
    (∀ c ∈ text, isTokenChar c = true) ∧
      (text = "$this".toList ∨ ∃ c ∈ text.head?, c = '\\' ∨ startsName c = true) := by
  fun_cases name? t with
  | case1 rest word => simp [name?, word] at found
  | case2 rest noWord =>
      simp only [name?, noWord, Bool.false_eq_true, ↓reduceIte, Option.some.injEq,
        Prod.mk.injEq] at found
      rw [← found.1]
      refine ⟨?_, Or.inl rfl⟩
      simp only [List.forall_mem_cons]
      exact ⟨by decide, by decide, by decide, by decide, by decide, by simp⟩
  | case3 rest =>
      simp only [name?] at found
      obtain ⟨⟨name, behind⟩, scanned, same⟩ := Option.map_eq_some_iff.mp found
      simp only [Prod.mk.injEq] at same
      rw [← same.1, List.forall_mem_cons]
      exact ⟨⟨by decide, (plainName?_chars scanned).1⟩, Or.inr ⟨'\\', rfl, Or.inl rfl⟩⟩
  | case4 _ noThis noBackslash =>
      rw [name?] at found
      · obtain ⟨chars, c, first, starts⟩ := plainName?_chars found
        exact ⟨chars, Or.inr ⟨c, first, Or.inr starts⟩⟩
      · exact noThis
      · exact noBackslash

end Names

section Whole

/-- The scanner that found a lexeme. -/
theorem first?_cases {t text after : Text} {kind : LexemeKind}
    (found : first? t = some (⟨kind, text⟩, after)) :
    match kind with
    | .blank => True
    | .string => string? t = some (text, after)
    | .number => number? t = some (text, after)
    | .name => name? t = some (text, after)
    | .mark => ∃ c, text = [c] ∧ isMark c = true := by
  simp only [first?] at found
  split at found
  · cases found
    trivial
  split at found
  · next string =>
      cases found
      exact string
  split at found
  · next number =>
      cases found
      exact number
  split at found
  · next name =>
      cases found
      exact name
  split at found
  · split at found
    · next mark =>
        cases found
        exact ⟨_, rfl, mark⟩
    · cases found
  · cases found

variable {text : Text}

theorem Whole.name_chars (whole : Whole ⟨.name, text⟩) : ∀ c ∈ text, isTokenChar c = true :=
  (name?_chars (first?_cases whole)).1

theorem Whole.name_head (whole : Whole ⟨.name, text⟩) :
    text = "$this".toList ∨ ∃ c ∈ text.head?, c = '\\' ∨ startsName c = true :=
  (name?_chars (first?_cases whole)).2

end Whole

end PhpHooks.Lexeme
