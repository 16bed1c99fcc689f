import PhpHooks.Proofs.DocBlock.ParamLines

set_option autoImplicit false

/-!
How the content of a parameter tag is divided. Whatever the content is, the parts of the tag stand
in it one behind the other with nothing but blanks between them. A type is a beginning of the
content whose brackets balance, and a content that begins with no variable is left undivided only
if some beginning of it does not balance.
-/
namespace PhpHooks.ParamTag

open Text (isBlank isWord)

section Brackets

def isOpening (c : Char) : Bool :=
  c == '<' || c == '\x7b' || c == '(' || c == '['

def isClosing (c : Char) : Bool :=
  c == '>' || c == '\x7d' || c == ')' || c == ']'

/-- Opening less closing brackets, all kinds counted alike. -/
def bracketBalance (t : Text) : Int :=
  (t.countP isOpening : Int) - (t.countP isClosing : Int)

/-- No bracket closes too early, and none is left open. -/
structure Balanced (t : Text) : Prop where
  fronts : ∀ front, front <+: t → 0 ≤ bracketBalance front
  whole : bracketBalance t = 0

/-- Counted from `depth` on, the brackets of a text come to `stop` and never fall below zero. -/
structure CountsTo (depth stop : Nat) (t : Text) : Prop where
  fronts : ∀ front, front <+: t → 0 ≤ depth + bracketBalance front
  whole : depth + bracketBalance t = stop

variable {c : Char} {t : Text} {depth next stop : Nat}

theorem not_isClosing (opening : isOpening c = true) : isClosing c = false := by
  simp only [isOpening, Bool.or_eq_true, beq_iff_eq] at opening
  rcases opening with ((rfl | rfl) | rfl) | rfl <;> rfl

theorem bracketBalance_opening (opening : isOpening c = true) (t : Text) :
    bracketBalance (c :: t) = bracketBalance t + 1 := by
  unfold bracketBalance
  rw [List.countP_cons_of_pos opening, List.countP_cons_of_neg (by simp [not_isClosing opening])]
  omega

theorem bracketBalance_closing (other : isOpening c = false) (closing : isClosing c = true)
    (t : Text) : bracketBalance (c :: t) = bracketBalance t - 1 := by
  unfold bracketBalance
  rw [List.countP_cons_of_neg (by simp [other]), List.countP_cons_of_pos closing]
  omega

theorem bracketBalance_other (opening : isOpening c = false) (closing : isClosing c = false)
    (t : Text) : bracketBalance (c :: t) = bracketBalance t := by
  simp [bracketBalance, opening, closing]

theorem countsTo_nil : CountsTo depth stop [] ↔ depth = stop := by
  constructor
  · intro counts
    have whole := counts.whole
    simp only [bracketBalance, List.countP_nil] at whole
    omega
  · rintro rfl
    refine ⟨?_, by simp [bracketBalance]⟩
    intro front begins
    rw [List.prefix_nil.mp begins]
    simp [bracketBalance]

/-- A character changes the depth from which the text behind it is counted. -/
theorem countsTo_cons
    (step : ∀ t, (depth : Int) + bracketBalance (c :: t) = next + bracketBalance t) :
    CountsTo depth stop (c :: t) ↔ CountsTo next stop t := by
  constructor
  · intro counts
    refine ⟨?_, (step t).symm.trans counts.whole⟩
    intro front begins
    rw [← step]
    exact counts.fronts (c :: front) (List.cons_prefix_cons.mpr ⟨rfl, begins⟩)
  · intro counts
    refine ⟨?_, (step t).trans counts.whole⟩
    intro front begins
    cases front with
    | nil => simp [bracketBalance]
    | cons d front =>
        obtain ⟨rfl, shorter⟩ := List.cons_prefix_cons.mp begins
        rw [step]
        exact counts.fronts front shorter

/-- The count along a text is the balance of its beginnings. -/
theorem bracketDepth?_eq_some_iff : bracketDepth? depth t = some stop ↔ CountsTo depth stop t := by
  fun_induction bracketDepth? depth t with
  | case1 depth => rw [Option.some.injEq, countsTo_nil]
  | case2 depth c t opens ih =>
      rw [ih, countsTo_cons]
      intro t
      rw [bracketBalance_opening opens]
      omega
  | case3 c t opens closes =>
      -- The count is given up where a bracket closes at depth zero.
      rw [Bool.not_eq_true] at opens
      refine iff_of_false (by simp) ?_
      intro counts
      have early := counts.fronts [c] (List.cons_prefix_cons.mpr ⟨rfl, List.nil_prefix⟩)
      rw [bracketBalance_closing opens closes] at early
      simp [bracketBalance] at early
  | case4 c t opens closes depth ih =>
      rw [Bool.not_eq_true] at opens
      rw [ih, countsTo_cons]
      intro t
      rw [bracketBalance_closing opens closes]
      omega
  | case5 depth c t opens closes ih =>
      rw [Bool.not_eq_true] at opens closes
      rw [ih, countsTo_cons]
      intro t
      rw [bracketBalance_other opens closes]

theorem isBalanced_iff : isBalanced t = true ↔ Balanced t := by
  rw [isBalanced, beq_iff_eq, bracketDepth?_eq_some_iff]
  constructor
  · intro counts
    exact ⟨by simpa using counts.fronts, by simpa using counts.whole⟩
  · intro balanced
    exact ⟨by simpa using balanced.fronts, by simpa using balanced.whole⟩

end Brackets

section Variables

open Lexeme (Stops takeWhile_run dropWhile_run)

/-- A mark with blanks behind it, or nothing. -/
def MaybeMark (opening mark : Text) : Prop :=
  mark = [] ∨ ∃ gap : Text, (∀ c ∈ gap, isBlank c = true) ∧ mark = opening ++ gap

/-- The ways to write a variable: a dollar sign and a word, in front of which the marks for a
reference and for further arguments may stand. -/
inductive IsVariable : Text → Prop
  | mk {reference spread name : Text} : MaybeMark ['&'] reference →
      MaybeMark ['.', '.', '.'] spread → name ≠ [] → (∀ c ∈ name, isWord c = true) →
      IsVariable (reference ++ spread ++ '$' :: name)

variable {opening mark t v rest : Text}

theorem skipMark_spec (opening t : Text) :
    MaybeMark opening (skipMark opening t).1 ∧
      (skipMark opening t).1 ++ (skipMark opening t).2 = t := by
  unfold skipMark
  split
  · next begins =>
      obtain ⟨rest, rfl⟩ := List.isPrefixOf_iff_prefix.mp begins
      rw [List.drop_left]
      refine ⟨Or.inr ⟨_, fun c inside => Lexeme.mem_takeWhile inside, rfl⟩, ?_⟩
      rw [List.append_assoc, List.takeWhile_append_dropWhile]
  · exact ⟨Or.inl rfl, rfl⟩

theorem parameter?_eq_some (found : parameter? t = some (v, rest)) :
    IsVariable v ∧ v ++ rest = t := by
  obtain ⟨reference, cut⟩ := skipMark_spec ['&'] t
  obtain ⟨spread, cutAgain⟩ := skipMark_spec ['.', '.', '.'] (skipMark ['&'] t).2
  simp only [parameter?] at found
  split at found
  · next more dollar =>
      split at found
      · cases found
      · next filled =>
          rw [Option.some.injEq, Prod.mk.injEq] at found
          obtain ⟨rfl, rfl⟩ := found
          refine ⟨.mk reference spread (by simpa using filled) ?_, ?_⟩
          · exact fun c inside => Lexeme.mem_takeWhile inside
          · rw [List.append_assoc, List.append_assoc, List.cons_append,
              List.takeWhile_append_dropWhile, ← dollar, cutAgain, cut]
  · cases found

/-- The mark in front of a text is skipped, if the text does not go on with blanks or the mark. -/
theorem skipMark_of_maybeMark (maybe : MaybeMark opening mark) (ink : Stops isBlank t)
    (other : Text.startsWith t opening = false) : skipMark opening (mark ++ t) = (mark, t) := by
  rcases maybe with rfl | ⟨gap, blank, rfl⟩
  · exact skipMark_of_other other
  · unfold skipMark
    rw [List.append_assoc, if_pos (Text.startsWith_append _ _), List.drop_left]
    simp only [takeWhile_run blank ink, dropWhile_run blank ink]

/-- Neither a blank nor a reference mark begins what follows the reference mark of a variable. -/
theorem stops_spread {spread : Text} (maybe : MaybeMark ['.', '.', '.'] spread) (t : Text) :
    Stops isBlank (spread ++ '$' :: t) ∧ Text.startsWith (spread ++ '$' :: t) ['&'] = false := by
  rcases maybe with rfl | ⟨gap, -, rfl⟩
  · refine ⟨?_, rfl⟩
    rintro c ⟨⟩
    decide
  · refine ⟨?_, rfl⟩
    rintro c ⟨⟩
    decide

/-- A variable at the beginning of a text is found. -/
theorem IsVariable.isSome_parameter? (written : IsVariable v) (rest : Text) :
    (parameter? (v ++ rest)).isSome = true := by
  obtain @⟨reference, spread, name, maybeReference, maybeSpread, filled, word⟩ := written
  obtain ⟨ink, other⟩ := stops_spread maybeSpread (name ++ rest)
  have dollar : Stops isBlank ('$' :: (name ++ rest)) := by
    rintro c ⟨⟩
    decide
  have taken : ((name ++ rest).takeWhile isWord).isEmpty = false := by
    rw [List.takeWhile_append_of_pos word]
    simp [filled]
  have shown : reference ++ spread ++ '$' :: name ++ rest =
      reference ++ (spread ++ '$' :: (name ++ rest)) := by simp
  rw [shown, parameter?]
  simp only [skipMark_of_maybeMark maybeReference ink other,
    skipMark_of_maybeMark maybeSpread dollar rfl, taken]
  rfl

end Variables

section Types

/-- A type with the last character `last` may end in front of `rest`: either the text ends there,
or a blank stands there across which nothing carries the type. -/
def EndsBefore (last : Option Char) (rest : Text) : Prop :=
  ∀ c ∈ rest.head?, isBlank c = true ∧ continuesAfter last = false ∧ continuesInto rest = false

variable {last : Option Char} {rest blanks : Text}

theorem last_advance (r : Reading) (c : Char) :
    (r.advance c).last = if isBlank c then r.last else some c := by
  have noted : (if isBlank c then r else { r with last := some c }).last =
      if isBlank c then r.last else some c := apply_ite Reading.last _ _ _
  fun_cases Reading.advance r c <;> exact noted

theorem splitType_append (r : Reading) (t : Text) :
    (splitType r t).1 ++ (splitType r t).2 = t := by
  fun_induction splitType r t with
  | case1 r => rfl
  | case2 r c mark quoted escape => rfl
  | case3 r c mark quoted next escape d more type after split ih =>
      rw [split] at ih
      rw [← ih]
      rfl
  | case4 r c rest mark quoted next plain behind type after split ih =>
      rw [split] at ih
      rw [← ih]
      rfl
  | case5 r c rest unquoted stops => rfl
  | case6 r c rest unquoted goesOn type after split ih =>
      rw [split] at ih
      rw [← ih]
      rfl

/-- Reading a type goes on to where it may end. -/
theorem splitType_endsBefore (r : Reading) (t : Text) :
    EndsBefore (lastInk r.last (splitType r t).1) (splitType r t).2 := by
  fun_induction splitType r t with
  | case1 r =>
      rintro c ⟨⟩
  | case2 r c mark quoted escape =>
      rintro c ⟨⟩
  | case3 r c mark quoted next escape d more type after split ih =>
      rw [split] at ih
      exact ih
  | case4 r c rest mark quoted next plain behind type after split ih =>
      rw [split] at ih
      have same : behind.last = next.last := by
        unfold behind
        split <;> rfl
      rw [same] at ih
      exact ih
  | case5 r c rest unquoted stops =>
      simp only [Reading.stopsAt, Bool.and_eq_true, Bool.not_eq_true'] at stops
      rintro d ⟨⟩
      exact ⟨stops.1.1.2, stops.1.2, stops.2⟩
  | case6 r c rest unquoted goesOn type after split ih =>
      rw [split, last_advance] at ih
      exact ih

theorem lastInk_of_blank (blank : ∀ c ∈ blanks, isBlank c = true) : lastInk last blanks = last := by
  induction blanks with
  | nil => rfl
  | cons c blanks ih =>
      rw [List.forall_mem_cons] at blank
      rw [lastInk_cons_of_blank blank.1, ih blank.2]

/-- What is kept of the last character while reading is the end of the trimmed text. -/
theorem lastInk_eq_getLast? (t : Text) : lastInk none t = (Text.trimEnd t).getLast? := by
  obtain ⟨blanks, blank, whole⟩ := Text.exists_trimEnd_append t
  conv_lhs => rw [← whole, lastInk_append, lastInk_of_blank blank]
  cases last : (Text.trimEnd t).getLast? with
  | none =>
      rw [List.getLast?_eq_none_iff.mp last]
      rfl
  | some c =>
      have ink := Text.isBlank_of_getLast?_trimEnd last
      obtain ⟨front, same⟩ := List.getLast?_eq_some_iff.mp last
      rw [same, lastInk_concat none front ink]

theorem continuesInto_append (blank : ∀ c ∈ blanks, isBlank c = true) (rest : Text) :
    continuesInto (blanks ++ rest) = continuesInto rest := by
  unfold continuesInto Text.trimStart
  rw [List.dropWhile_append_of_pos blank]

theorem EndsBefore.append (ends : EndsBefore last rest) (filled : rest ≠ [])
    (blank : ∀ c ∈ blanks, isBlank c = true) : EndsBefore last (blanks ++ rest) := by
  obtain ⟨d, more, rfl⟩ := List.exists_cons_of_ne_nil filled
  obtain ⟨next, after, into⟩ := ends d rfl
  intro c first
  rw [continuesInto_append blank]
  refine ⟨?_, after, into⟩
  cases blanks with
  | nil =>
      cases first
      exact next
  | cons b blanks =>
      cases first
      exact blank c List.mem_cons_self

/-- A text falls into a type and the text behind it, in front of which the type may end. -/
structure Cut (t type behind : Text) : Prop where
  whole : type ++ behind = t
  filled : type ≠ []
  ends : EndsBefore type.getLast? behind

/-- Blanks that were read with a type are trimmed away from it and stand behind it instead. -/
theorem exists_cut {taken rest : Text} (tight : Text.Tight (taken ++ rest))
    (ends : EndsBefore (lastInk none taken) rest) :
    ∃ behind, Cut (taken ++ rest) (Text.trim taken) behind ∧ Text.trim behind = Text.trim rest := by
  obtain ⟨c, first, ink⟩ := tight.begins
  have begins : c ∈ taken.head? := by
    cases taken with
    | nil =>
        rw [(ends c first).1] at ink
        cases ink
    | cons d taken => exact first
  have front : Text.trim taken = Text.trimEnd taken := by
    rw [Text.trim, Text.trimStart_of_begins ⟨c, begins, ink⟩]
  obtain ⟨blanks, blank, whole⟩ := Text.exists_trimEnd_append taken
  rw [lastInk_eq_getLast?] at ends
  rw [front]
  refine ⟨blanks ++ rest, ⟨?_, ?_, ?_⟩, ?_⟩
  · rw [← List.append_assoc, whole]
  · intro empty
    rw [empty, List.nil_append] at whole
    rw [← whole] at begins
    rw [blank c (List.mem_of_head? begins)] at ink
    cases ink
  · by_cases final : rest = []
    · -- At the end of the text no blanks are left to trim away.
      rw [final, List.append_nil] at tight ⊢
      rw [Text.trimEnd_of_ends tight.ends, List.append_right_eq_self] at whole
      rw [whole]
      rintro d ⟨⟩
    · exact ends.append final blank
  · rw [Text.trim, Text.trim, Text.trimStart, Text.trimStart, List.dropWhile_append_of_pos blank]

end Types

/-- The parts of the tag stand in the text in order and are all of it but blanks. A type ends only
where nothing carries it on, a variable is found where one may stand, and only brackets out of
balance leave a text undivided. -/
structure Divides (t : Text) (tag : ParamTag) : Prop where
  whole : ∃ gap space : Text, (∀ c ∈ gap, isBlank c = true) ∧ (∀ c ∈ space, isBlank c = true) ∧
    t = tag.type.getD [] ++ gap ++ tag.parameter.getD [] ++ space ++ tag.description
  typed : ∀ type ∈ tag.type, type ≠ [] ∧ Balanced type
  ends : ∀ type ∈ tag.type, ∀ rest, type ++ rest = t → EndsBefore type.getLast? rest
  named : ∀ parameter ∈ tag.parameter, IsVariable parameter
  untyped : (∃ v, IsVariable v ∧ v <+: t) → tag.type = none
  unnamed : tag.parameter = none → ∀ v, IsVariable v → ¬ v <+: tag.description
  undivided : tag.type = none → tag.parameter = none →
    t = [] ∨ ∃ front, front <+: t ∧ ¬ Balanced front

section Division

variable {t v rest type behind : Text}

theorem not_isVariable (unled : parameter? t = none) (written : IsVariable v) : ¬ v <+: t := by
  rintro ⟨rest, rfl⟩
  have found := written.isSome_parameter? rest
  rw [unled] at found
  cases found

/-- A variable and what is said behind it, up to the end of a text. -/
theorem exists_description (front : Text)
    (ends : ∀ c ∈ (front ++ t).getLast?, isBlank c = false)
    (found : parameter? t = some (v, rest)) :
    ∃ space : Text, (∀ c ∈ space, isBlank c = true) ∧ v ++ (space ++ Text.trim rest) = t := by
  obtain ⟨-, whole⟩ := parameter?_eq_some found
  rw [← whole, ← List.append_assoc] at ends
  obtain ⟨space, blank, behind⟩ := Text.exists_append_trim ends
  exact ⟨space, blank, by rw [behind, whole]⟩

theorem divides_undivided (unled : parameter? t = none)
    (reason : t = [] ∨ ∃ front, front <+: t ∧ ¬ Balanced front) : Divides t ⟨none, none, t⟩ where
  whole := ⟨[], [], by simp, by simp, rfl⟩
  typed := by simp
  ends := by simp
  named := by simp
  untyped := fun _ => rfl
  unnamed := fun _ _ => not_isVariable unled
  undivided := fun _ _ => reason

theorem divides_led (ends : ∀ c ∈ t.getLast?, isBlank c = false)
    (found : parameter? t = some (v, rest)) : Divides t ⟨none, some v, Text.trim rest⟩ := by
  obtain ⟨space, blank, whole⟩ := exists_description [] ends found
  refine ⟨⟨[], space, by simp, blank, ?_⟩, by simp, by simp, ?_, fun _ => rfl, by simp, by simp⟩
  · simpa using whole.symm
  · rintro _ ⟨⟩
    exact (parameter?_eq_some found).1

/-- What is said behind a type, with a variable or without one. -/
theorem Cut.divides (cut : Cut t type behind) (balanced : Balanced type)
    (unled : parameter? t = none) {parameter : Option Text} {gap space description : Text}
    (blankGap : ∀ c ∈ gap, isBlank c = true) (blankSpace : ∀ c ∈ space, isBlank c = true)
    (whole : gap ++ (parameter.getD [] ++ (space ++ description)) = behind)
    (named : ∀ v ∈ parameter, IsVariable v)
    (unnamed : parameter = none → parameter? description = none) :
    Divides t ⟨some type, parameter, description⟩ := by
  refine ⟨⟨gap, space, blankGap, blankSpace, ?_⟩, ?_, ?_, named, ?_, ?_, by simp⟩
  · rw [← cut.whole, ← whole]
    simp
  · rintro _ ⟨⟩
    exact ⟨cut.filled, balanced⟩
  · rintro _ ⟨⟩ rest same
    rw [List.append_cancel_left (same.trans cut.whole.symm)]
    exact cut.ends
  · rintro ⟨v, written, begins⟩
    exact absurd begins (not_isVariable unled written)
  · intro missing v written
    exact not_isVariable (unnamed missing) written

theorem Cut.divides_named (cut : Cut t type behind) (balanced : Balanced type)
    (unled : parameter? t = none) (ends : ∀ c ∈ t.getLast?, isBlank c = false)
    (found : parameter? (Text.trim behind) = some (v, rest)) :
    Divides t ⟨some type, some v, Text.trim rest⟩ := by
  rw [← cut.whole] at ends
  obtain ⟨gap, blankGap, inFront⟩ := Text.exists_append_trim ends
  rw [← inFront, ← List.append_assoc] at ends
  obtain ⟨space, blankSpace, whole⟩ := exists_description (type ++ gap) ends found
  refine cut.divides balanced unled blankGap blankSpace ?_ ?_ (by simp)
  · rw [Option.getD_some, whole, inFront]
  · rintro _ ⟨⟩
    exact (parameter?_eq_some found).1

theorem Cut.divides_unnamed (cut : Cut t type behind) (balanced : Balanced type)
    (unled : parameter? t = none) (ends : ∀ c ∈ t.getLast?, isBlank c = false)
    (nameless : parameter? (Text.trim behind) = none) :
    Divides t ⟨some type, none, Text.trim behind⟩ := by
  rw [← cut.whole] at ends
  obtain ⟨gap, blankGap, inFront⟩ := Text.exists_append_trim ends
  have nothing : ∀ c ∈ ([] : Text), isBlank c = true := List.forall_mem_nil _
  exact cut.divides balanced unled blankGap nothing inFront (by simp) fun _ => nameless

end Division

/-- Whatever the content of a tag is, the parts of the tag and blanks between them make it up, and
the brackets of its type are closed. -/
theorem content_is_divided (content : Text) : Divides (Text.trim content) (ofContent content) := by
  unfold ofContent
  generalize trimmed : Text.trim content = t
  rcases trimmed ▸ Text.trim_eq_nil_or_tight content with rfl | tight
  · exact divides_undivided rfl (Or.inl rfl)
  have whole := splitType_append ⟨[], none, none⟩ t
  have ends := splitType_endsBefore ⟨[], none, none⟩ t
  have dark := tight.isBlank_of_getLast?
  dsimp only
  split
  · next v rest found => exact divides_led dark found
  · next unled =>
      obtain ⟨behind, cut, same⟩ := exists_cut (whole.symm ▸ tight) ends
      rw [whole] at cut
      rw [← same]
      split
      · next unusable =>
          refine divides_undivided unled (Or.inr ⟨_, ⟨behind, cut.whole⟩, ?_⟩)
          rw [← isBalanced_iff]
          simpa [cut.filled] using unusable
      · next usable =>
          have balanced : isBalanced (Text.trim (splitType ⟨[], none, none⟩ t).1) = true := by
            simpa [cut.filled] using usable
          rw [isBalanced_iff] at balanced
          split
          · next v rest found => exact cut.divides_named balanced unled dark found
          · next nameless => exact cut.divides_unnamed balanced unled dark nameless

section Example

/-- A string with brackets, an escaped quotation mark and a blank in it, or an integer; behind that
a variable with both marks. -/
def quotedContent : Text :=
  " '(a\\' )' |\tint  & ...$p  as is ".toList

def quotedTag : ParamTag :=
  ⟨some "'(a\\' )' |\tint".toList, some "& ...$p".toList, "as is".toList⟩

theorem quotedContent_is_divided :
    ofContent quotedContent = quotedTag ∧ Divides (Text.trim quotedContent) quotedTag := by
  have tag : ofContent quotedContent = quotedTag := by
    unfold quotedContent quotedTag
    cbv
  exact ⟨tag, tag ▸ content_is_divided quotedContent⟩

/-- A string that is still open takes the rest of the content, also behind a last backslash. -/
example : ofContent "'a $p \\".toList = ⟨some "'a $p \\".toList, none, []⟩ := by
  cbv

end Example

end PhpHooks.ParamTag
