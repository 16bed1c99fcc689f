import PhpHooks.Text.Blank

set_option autoImplicit false

/-!
Texts that trimming leaves alone, texts put together from parts, and the lines of a text.
-/
namespace PhpHooks.Text

section Marks

theorem startsWith_append (mark rest : Text) : startsWith (mark ++ rest) mark = true := by
  rw [startsWith, List.isPrefixOf_iff_prefix]
  exact List.prefix_append mark rest

theorem endsWith_append (front mark : Text) : endsWith (front ++ mark) mark = true := by
  rw [endsWith, List.isSuffixOf_iff_suffix]
  exact List.suffix_append front mark

end Marks

section Trimming

/-- A text that neither begins nor ends with a blank, and is not empty. -/
structure Tight (t : Text) : Prop where
  begins : ∃ c ∈ t.head?, isBlank c = false
  ends : ∃ c ∈ t.getLast?, isBlank c = false

variable {s t : Text} {c : Char}

theorem Tight.append (begins : ∃ c ∈ s.head?, isBlank c = false)
    (ends : ∃ c ∈ t.getLast?, isBlank c = false) : Tight (s ++ t) := by
  obtain ⟨c, first, ink⟩ := begins
  obtain ⟨d, last, dark⟩ := ends
  refine ⟨⟨c, ?_, ink⟩, ⟨d, ?_, dark⟩⟩
  · rw [Option.mem_def] at first ⊢
    rw [List.head?_append, first]
    rfl
  · rw [Option.mem_def] at last ⊢
    rw [List.getLast?_append, last]
    rfl

theorem trimStart_of_begins (begins : ∃ c ∈ t.head?, isBlank c = false) : trimStart t = t := by
  obtain ⟨c, first, ink⟩ := begins
  obtain ⟨rest, rfl⟩ := List.head?_eq_some_iff.mp first
  rw [trimStart, List.dropWhile_cons_of_neg (by simp [ink])]

theorem trimEnd_of_ends (ends : ∃ c ∈ t.getLast?, isBlank c = false) : trimEnd t = t := by
  obtain ⟨c, last, ink⟩ := ends
  obtain ⟨front, rfl⟩ := List.getLast?_eq_some_iff.mp last
  rw [trimEnd, List.reverse_append, List.reverse_singleton, List.singleton_append,
    List.dropWhile_cons_of_neg (by simp [ink])]
  simp

theorem Tight.trim_eq (tight : Tight t) : trim t = t := by
  rw [trim, trimStart_of_begins tight.begins, trimEnd_of_ends tight.ends]

theorem Tight.isBlank_of_getLast? (tight : Tight t) : ∀ c ∈ t.getLast?, isBlank c = false := by
  obtain ⟨d, last, ink⟩ := tight.ends
  intro c also
  rwa [← Option.mem_unique last also]

/-- A blank in front is trimmed away. -/
theorem trim_cons (blank : isBlank c = true) (t : Text) : trim (c :: t) = trim t := by
  rw [trim, trimStart, List.dropWhile_cons_of_pos blank]
  rfl

theorem trimEnd_append_of_nil (blank : trimEnd t = []) (s : Text) :
    trimEnd (s ++ t) = trimEnd s := by
  rw [trimEnd, List.reverse_eq_nil_iff] at blank
  rw [trimEnd, List.reverse_append, List.dropWhile_append, blank]
  rfl

theorem trimEnd_append (filled : trimEnd t ≠ []) (s : Text) :
    trimEnd (s ++ t) = s ++ trimEnd t := by
  rw [trimEnd, ne_eq, List.reverse_eq_nil_iff, ← List.isEmpty_iff] at filled
  rw [trimEnd, List.reverse_append, List.dropWhile_append, if_neg filled, List.reverse_append,
    List.reverse_reverse]
  rfl

/-- A blank behind is trimmed away. -/
theorem trim_concat (blank : isBlank c = true) (t : Text) : trim (t ++ [c]) = trim t := by
  have nothing : trimEnd [c] = [] := by simp [trimEnd, blank]
  rw [trim, trim, trimStart, trimStart, List.dropWhile_append]
  cases left : t.dropWhile isBlank with
  | nil => simp [blank]
  | cons d rest => exact trimEnd_append_of_nil nothing (d :: rest)

theorem trimStart_trimStart_append (s t : Text) :
    trimStart (trimStart s ++ t) = trimStart (s ++ t) := by
  induction s with
  | nil => rfl
  | cons c s ih =>
      by_cases blank : isBlank c = true
      · unfold trimStart at ih ⊢
        rw [List.dropWhile_cons_of_pos blank, List.cons_append, List.dropWhile_cons_of_pos blank, ih]
      · unfold trimStart
        rw [List.dropWhile_cons_of_neg blank]

/-- Blanks in front of the first part are trimmed away with those in front of the whole. -/
theorem trim_trimStart_append (s t : Text) : trim (trimStart s ++ t) = trim (s ++ t) := by
  rw [trim, trim, trimStart_trimStart_append]

/-- No blank ends a trimmed text. -/
theorem isBlank_of_getLast?_trimEnd (last : c ∈ (trimEnd t).getLast?) : isBlank c = false := by
  have stopped := List.head?_dropWhile_not isBlank t.reverse
  rw [trimEnd, List.getLast?_reverse, Option.mem_def] at last
  rw [last] at stopped
  simpa using stopped

theorem trimEnd_eq_self (ends : ∀ c ∈ t.getLast?, isBlank c = false) : trimEnd t = t := by
  cases last : t.getLast? with
  | none =>
      rw [List.getLast?_eq_none_iff.mp last]
      rfl
  | some c => exact trimEnd_of_ends ⟨c, last, ends c last⟩

theorem trimEnd_trimEnd (t : Text) : trimEnd (trimEnd t) = trimEnd t :=
  trimEnd_eq_self fun _ => isBlank_of_getLast?_trimEnd

/-- Only blanks in front are trimmed away from a text that no blank ends. -/
theorem trim_eq_trimStart (ends : ∀ c ∈ t.getLast?, isBlank c = false) : trim t = trimStart t := by
  rw [trim]
  cases left : trimStart t with
  | nil => rfl
  | cons c rest =>
      apply trimEnd_of_ends
      have behind : t.takeWhile isBlank ++ c :: rest = t := by
        rw [← left, trimStart, List.takeWhile_append_dropWhile]
      have same : t.getLast? = (c :: rest).getLast? := by
        rw [← behind, List.getLast?_append, List.getLast?_cons, Option.some_or]
      obtain ⟨d, last⟩ : ∃ d, (c :: rest).getLast? = some d := ⟨_, List.getLast?_cons⟩
      exact ⟨d, last, ends d (same.trans last)⟩

/-- Behind a text trimmed at its end, only blanks are missing. -/
theorem exists_trimEnd_append (t : Text) :
    ∃ blanks : Text, (∀ c ∈ blanks, isBlank c = true) ∧ trimEnd t ++ blanks = t := by
  refine ⟨(t.reverse.takeWhile isBlank).reverse, ?_, ?_⟩
  · intro c inside
    rw [List.mem_reverse] at inside
    exact List.all_eq_true.mp List.all_takeWhile c inside
  · rw [trimEnd, ← List.reverse_append, List.takeWhile_append_dropWhile, List.reverse_reverse]

/-- If no blank ends a text, only blanks are missing in front of what trimming leaves of its second
part. -/
theorem exists_append_trim (ends : ∀ c ∈ (s ++ t).getLast?, isBlank c = false) :
    ∃ blanks : Text, (∀ c ∈ blanks, isBlank c = true) ∧ blanks ++ trim t = t := by
  have own : ∀ c ∈ t.getLast?, isBlank c = false := by
    intro c last
    apply ends c
    rw [Option.mem_def] at last ⊢
    rw [List.getLast?_append, last]
    rfl
  refine ⟨t.takeWhile isBlank, ?_, ?_⟩
  · intro c inside
    exact List.all_eq_true.mp List.all_takeWhile c inside
  · rw [trim_eq_trimStart own, trimStart, List.takeWhile_append_dropWhile]

theorem trim_eq_nil_or_tight (t : Text) : trim t = [] ∨ Tight (trim t) := by
  cases trimmed : trim t with
  | nil => exact Or.inl rfl
  | cons c rest =>
      obtain ⟨blanks, -, behind⟩ := exists_trimEnd_append (trimStart t)
      rw [← trim, trimmed] at behind
      have first : isBlank c = false := by
        have stopped := List.head?_dropWhile_not isBlank t
        rw [← trimStart, ← behind] at stopped
        simpa using stopped
      obtain ⟨d, last⟩ : ∃ d, (c :: rest).getLast? = some d := ⟨_, List.getLast?_cons⟩
      refine Or.inr ⟨⟨c, rfl, first⟩, d, last, ?_⟩
      rw [← trimmed] at last
      exact isBlank_of_getLast?_trimEnd last

end Trimming

section Joining

variable (separator : Text)

theorem joined_singleton (part : Text) : joined separator [part] = part := by
  simp [joined, List.intercalate]

/-- The parts of a text in front of more parts. -/
theorem joined_cons (part next : Text) (parts : List Text) :
    joined separator (part :: next :: parts) =
      part ++ separator ++ joined separator (next :: parts) := by
  simp [joined, List.intercalate]

theorem joined_cons_concat (part : Text) (parts : List Text) (last : Text) :
    joined separator (part :: (parts ++ [last])) =
      part ++ separator ++ joined separator (parts ++ [last]) := by
  cases parts with
  | nil => exact joined_cons separator part last []
  | cons next parts => exact joined_cons separator part next (parts ++ [last])

theorem joined_concat {parts : List Text} (filled : parts ≠ []) (last : Text) :
    joined separator (parts ++ [last]) = joined separator parts ++ separator ++ last := by
  induction parts with
  | nil => exact absurd rfl filled
  | cons part parts ih =>
      rw [List.cons_append, joined_cons_concat]
      cases parts with
      | nil => rw [List.nil_append, joined_singleton, joined_singleton]
      | cons next parts => rw [ih (by simp), joined_cons]; simp

/-- What stands behind the last part stands behind the whole. -/
theorem joined_concat_append (parts : List Text) (last t : Text) :
    joined separator (parts ++ [last ++ t]) = joined separator (parts ++ [last]) ++ t := by
  induction parts with
  | nil => rw [List.nil_append, List.nil_append, joined_singleton, joined_singleton]
  | cons part parts ih =>
      rw [List.cons_append, List.cons_append, joined_cons_concat, joined_cons_concat, ih]
      exact (List.append_assoc _ _ t).symm

end Joining

section Lines

theorem isBlank_of_isLineBreak {c : Char} (lineBreak : isLineBreak c = true) :
    isBlank c = true := by
  simp only [isLineBreak, Bool.or_eq_true, Bool.and_eq_true, decide_eq_true_eq,
    beq_iff_eq] at lineBreak
  simp only [isBlank, Bool.or_eq_true, Bool.and_eq_true, decide_eq_true_eq, beq_iff_eq]
  omega

theorem not_isLineBreak {c : Char} (ink : isBlank c = false) : isLineBreak c = false := by
  cases lineBreak : isLineBreak c with
  | false => rfl
  | true =>
      rw [isBlank_of_isLineBreak lineBreak] at ink
      cases ink

theorem lines_cons {c : Char} {rest line : Text} {others : List Text}
    (inside : isLineBreak c = false) (split : lines rest = line :: others) :
    lines (c :: rest) = (c :: line) :: others := by
  have noReturn : c ≠ '\r' := by
    rintro rfl
    exact absurd inside (by decide)
  rw [lines, if_neg (by simp [inside]), split]
  exact fun rest same _ => noReturn same

variable {line : Text}

theorem lines_newline (rest : Text) : lines ('\n' :: rest) = [] :: lines rest := by
  rw [lines, if_pos (by decide)]
  exact fun rest same _ => absurd same (by decide)

/-- A text without breaks is the line in front of the next line feed. -/
theorem lines_append_newline (inside : ∀ c ∈ line, isLineBreak c = false) (rest : Text) :
    lines (line ++ '\n' :: rest) = line :: lines rest := by
  induction line with
  | nil => exact lines_newline rest
  | cons c line ih =>
      rw [List.forall_mem_cons] at inside
      exact lines_cons inside.1 (ih inside.2)

/-- Lines that are put together are found again, if the last one is not empty. -/
theorem lines_joined {parts : List Text} {last : Text}
    (inside : ∀ line ∈ parts, ∀ c ∈ line, isLineBreak c = false) (single : lines last = [last]) :
    lines (joined ['\n'] (parts ++ [last])) = parts ++ [last] := by
  induction parts with
  | nil => rw [List.nil_append, joined_singleton, single]
  | cons line parts ih =>
      rw [List.forall_mem_cons] at inside
      rw [List.cons_append, joined_cons_concat, List.append_assoc, List.singleton_append,
        lines_append_newline inside.1, ih inside.2]

end Lines

end PhpHooks.Text
