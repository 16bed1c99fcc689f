import PhpHooks.Proofs.DocBlock.Filing

set_option autoImplicit false

/-!
Documentation blocks laid out line by line, with a star in front of each line: first the summary,
then the tags. A block that is laid out so is parsed back into its summary and its tags.
-/
namespace PhpHooks.DocBlock

section Starred

/-- The comment that holds these lines, each behind a star. -/
def starred (lines : List Text) : Text :=
  Text.joined ['\n'] ("/**".toList :: lines.map (" * ".toList ++ ·) ++ [" */".toList])

def starredBody (lines : List Text) : Text :=
  Text.joined ['\n'] ([] :: lines.map (" * ".toList ++ ·) ++ [[' ']])

theorem starred_eq (lines : List Text) :
    starred lines = "/**".toList ++ starredBody lines ++ "*/".toList := by
  have behind := Text.joined_concat_append ['\n'] (lines.map (" * ".toList ++ ·)) [' '] "*/".toList
  have shown : " */".toList = [' '] ++ "*/".toList := rfl
  rw [starred, starredBody, List.cons_append, List.cons_append, Text.joined_cons_concat,
    Text.joined_cons_concat, shown, behind]
  simp

theorem body?_starred (lines : List Text) : body? (starred lines) = some (starredBody lines) := by
  have tight : Text.Tight (starred lines) := by
    rw [starred_eq, List.append_assoc]
    apply Text.Tight.append ⟨'/', rfl, by decide⟩
    exact ⟨'/', by simp, by decide⟩
  apply body?_of_trim
  rw [tight.trim_eq, starred_eq]

/-- The star is taken away with the space behind it, and nothing else in front of the line. -/
theorem cleanLine_star (line : Text) : cleanLine (" * ".toList ++ line) = Text.trimEnd line := by
  have star : Text.trim (" * ".toList ++ line) = Text.trimEnd ("* ".toList ++ line) := by
    have front : Text.trimStart ("* ".toList ++ line) = "* ".toList ++ line :=
      Text.trimStart_of_begins ⟨'*', rfl, by decide⟩
    have shown : " * ".toList ++ line = ' ' :: ("* ".toList ++ line) := rfl
    rw [shown, Text.trim_cons (by decide), Text.trim, front]
  rw [cleanLine, star]
  by_cases blank : Text.trimEnd line = []
  · rw [Text.trimEnd_append_of_nil blank, blank]
    rfl
  · rw [Text.trimEnd_append blank]
    exact Text.trimEnd_trimEnd line

theorem cleanLines_starredBody {lines : List Text}
    (unbroken : ∀ line ∈ lines, ∀ c ∈ line, Text.isLineBreak c = false) :
    cleanLines (starredBody lines) = [] :: (lines.map Text.trimEnd ++ [[]]) := by
  have inside : ∀ line ∈ [] :: lines.map (" * ".toList ++ ·),
      ∀ c ∈ line, Text.isLineBreak c = false := by
    have star : ∀ c ∈ " * ".toList, Text.isLineBreak c = false := by simp; decide
    rw [List.forall_mem_cons, List.forall_mem_map]
    refine ⟨by simp, fun line listed => ?_⟩
    rw [List.forall_mem_append]
    exact ⟨star, unbroken line listed⟩
  have blank : cleanLine [' '] = [] := by decide
  have cleaned : (lines.map (" * ".toList ++ ·)).map cleanLine = lines.map Text.trimEnd := by
    rw [List.map_map]
    exact List.map_congr_left fun line _ => cleanLine_star line
  rw [cleanLines, starredBody, Text.lines_joined inside (by decide), List.map_append, List.map_cons,
    cleaned, List.map_singleton, blank]
  rfl

/-- An empty line in front or behind adds nothing to a paragraph. -/
theorem paragraph_nil_cons (lines : List Text) : paragraph ([] :: lines) = paragraph lines := by
  cases lines with
  | nil => rfl
  | cons line lines =>
      rw [paragraph, Text.joined_cons, List.nil_append, List.singleton_append,
        Text.trim_cons (by decide)]
      rfl

theorem paragraph_concat_nil (lines : List Text) : paragraph (lines ++ [[]]) = paragraph lines := by
  cases lines with
  | nil => rfl
  | cons line lines =>
      rw [paragraph, Text.joined_concat _ (by simp), List.append_nil, Text.trim_concat (by decide)]
      rfl

theorem Group.tag_concat_nil (group : Group) :
    Group.tag ⟨group.line, group.more ++ [[]]⟩ = group.tag := by
  unfold Group.tag Group.tagLines Group.lines
  cases tagLine? group.line with
  | none => exact congrArg (DocTag.mk []) (paragraph_concat_nil group.lines)
  | some tag => exact congrArg (DocTag.mk tag.1) (paragraph_concat_nil (tag.2 :: group.more))

theorem isTagLine_nil : isTagLine [] = false := by
  decide

/-- An empty line at the end goes on with the last tag, which says the same without it. -/
theorem splitGroups_concat_nil (balance : Int) (lines : List Text) :
    ((splitGroups balance (lines ++ [[]])).1 = (splitGroups balance lines).1 ∨
        (splitGroups balance (lines ++ [[]])).1 = (splitGroups balance lines).1 ++ [[]]) ∧
      (splitGroups balance (lines ++ [[]])).2.map Group.tag =
        (splitGroups balance lines).2.map Group.tag := by
  induction lines generalizing balance with
  | nil => simp [splitGroups, isTagLine_nil]
  | cons line rest ih =>
      by_cases begins : (isTagLine line && decide (balance ≤ 0)) = true
      · obtain ⟨own, others⟩ := ih (braceBalance line)
        rw [List.cons_append, splitGroups, splitGroups, if_pos begins, if_pos begins]
        refine ⟨Or.inl rfl, ?_⟩
        rw [List.map_cons, List.map_cons, others, List.cons.injEq]
        refine ⟨?_, rfl⟩
        rcases own with same | longer
        · rw [same]
        · rw [longer, Group.tag_concat_nil ⟨line, _⟩]
      · obtain ⟨own, others⟩ := ih (balance + braceBalance line)
        rw [List.cons_append, splitGroups, splitGroups, if_neg begins, if_neg begins]
        refine ⟨?_, others⟩
        rcases own with same | longer
        · exact Or.inl (congrArg (line :: ·) same)
        · exact Or.inr (congrArg (line :: ·) longer)

theorem ofLines_nil_cons (lines : List Text) : ofLines ([] :: lines) = ofLines lines := by
  unfold ofLines
  rw [List.takeWhile_cons_of_pos (by simp [isTagLine_nil]),
    List.dropWhile_cons_of_pos (by simp [isTagLine_nil]), paragraph_nil_cons]

theorem ofLines_concat_nil (lines : List Text) : ofLines (lines ++ [[]]) = ofLines lines := by
  have plain : ∀ line ∈ lines.takeWhile fun line => !isTagLine line, (!isTagLine line) = true :=
    fun line listed => List.all_eq_true.mp List.all_takeWhile line listed
  have whole : lines ++ [[]] = (lines.takeWhile fun line => !isTagLine line) ++
      ((lines.dropWhile fun line => !isTagLine line) ++ [[]]) := by
    rw [← List.append_assoc, List.takeWhile_append_dropWhile]
  rw [ofLines_eq, ofLines_eq, Filing.ofLines, Filing.ofLines, Filing.block, Filing.block, whole,
    List.takeWhile_append_of_pos plain, List.dropWhile_append_of_pos plain]
  cases left : lines.dropWhile fun line => !isTagLine line with
  | nil => simp [isTagLine_nil, paragraph_concat_nil]
  | cons line rest =>
      have same := (splitGroups_concat_nil 0 (line :: rest)).2
      simpa [isTagLine_of_dropWhile left] using same

/-- The block of a starred comment is that of its lines without the blanks behind them. -/
theorem parse_starred {lines : List Text}
    (unbroken : ∀ line ∈ lines, ∀ c ∈ line, Text.isLineBreak c = false) :
    parse (starred lines) = .ok (ofLines (lines.map Text.trimEnd)) := by
  rw [parse, body?_starred]
  simp only [cleanLines_starredBody unbroken, ofLines_nil_cons, ofLines_concat_nil]

end Starred

section Canonical

/-- A tag to be laid out: its name, what stands behind the name, and the lines below. -/
structure LaidTag where
  name : Text
  first : Text
  more : List Text

namespace LaidTag

/-- What the tag says, line by line. -/
def lines (tag : LaidTag) : List Text :=
  tag.first :: tag.more

def opening (tag : LaidTag) : Text :=
  '@' :: (tag.name ++ ' ' :: tag.first)

def docTag (tag : LaidTag) : DocTag :=
  ⟨tag.name, Text.joined ['\n'] tag.lines⟩

/-- The group of the tag's lines; there is no blank behind a name without anything else. -/
def group (tag : LaidTag) : Group :=
  ⟨Text.trimEnd tag.opening, tag.more⟩

end LaidTag

def layout (summary : List Text) (tags : List LaidTag) : Text :=
  starred (summary ++ tags.flatMap fun tag => tag.opening :: tag.more)

/-- What can be laid out and read back: lines that are neither broken nor end in blanks, paragraphs
without blanks around them, and no line that would be taken for the beginning of another tag. -/
structure Canonical (summary : List Text) (tags : List LaidTag) : Prop where
  named : ∀ tag ∈ tags, IsTagName tag.name
  unbroken : ∀ line ∈ summary ++ tags.flatMap LaidTag.lines, ∀ c ∈ line, Text.isLineBreak c = false
  ended : ∀ line ∈ summary ++ tags.flatMap LaidTag.lines,
    ∀ c ∈ line.getLast?, Text.isBlank c = false
  summary_tight : Text.trim (Text.joined ['\n'] summary) = Text.joined ['\n'] summary
  content_tight : ∀ tag ∈ tags,
    Text.trim (Text.joined ['\n'] tag.lines) = Text.joined ['\n'] tag.lines
  plain : ∀ line ∈ summary, ∀ c rest, Text.trim line = '@' :: c :: rest →
    Text.isAsciiLetter c = false
  inside : ∀ tag ∈ tags, Inside (braceBalance tag.first) tag.more
  closed : ∀ tag ∈ tags.dropLast, braceBalance tag.lines.flatten ≤ 0

theorem continuesTagName_excludes {c : Char} (continues : continuesTagName c = true) :
    Text.isBlank c = false ∧ c ≠ '\x7b' ∧ c ≠ '\x7d' := by
  refine ⟨?_, ?_, ?_⟩
  · rw [Bool.eq_false_iff]
    intro blank
    rw [continuesTagName, (Text.isBlank_excludes blank).2.1, Bool.false_or, beq_iff_eq] at continues
    rw [continues] at blank
    exact absurd blank (by decide)
  · rintro rfl
    exact absurd continues (by decide)
  · rintro rfl
    exact absurd continues (by decide)

theorem IsTagName.continues {name : Text} (named : IsTagName name) :
    ∀ c ∈ name, continuesTagName c = true := by
  obtain ⟨c, rest, rfl, letter, continues⟩ := named
  have ascii := Lexeme.isAsciiLetter_lt letter
  have first : continuesTagName c = true := by simp [continuesTagName, Text.isWord, ascii, letter]
  exact List.forall_mem_cons.mpr ⟨first, continues⟩

theorem IsTagName.braceBalance_eq {name : Text} (named : IsTagName name) :
    braceBalance name = 0 := by
  have noOpening : '\x7b' ∉ name :=
    fun inside => (continuesTagName_excludes (named.continues _ inside)).2.1 rfl
  have noClosing : '\x7d' ∉ name :=
    fun inside => (continuesTagName_excludes (named.continues _ inside)).2.2 rfl
  rw [braceBalance, List.count_eq_zero_of_not_mem noOpening, List.count_eq_zero_of_not_mem noClosing]
  rfl

namespace LaidTag

variable {tag : LaidTag}

def remainder (tag : LaidTag) : Text :=
  Text.trimEnd (' ' :: tag.first)

theorem remainder_cases (ended : ∀ c ∈ tag.first.getLast?, Text.isBlank c = false) :
    (tag.first = [] ∧ tag.remainder = []) ∨ tag.remainder = ' ' :: tag.first := by
  unfold remainder
  cases first : tag.first with
  | nil => exact Or.inl ⟨rfl, rfl⟩
  | cons c rest =>
      rw [first] at ended
      apply Or.inr
      apply Text.trimEnd_eq_self
      rwa [List.getLast?_cons_cons]

theorem trimEnd_opening (named : IsTagName tag.name) :
    Text.trimEnd tag.opening = '@' :: (tag.name ++ tag.remainder) := by
  have split : tag.opening = '@' :: tag.name ++ ' ' :: tag.first := rfl
  rw [split, remainder]
  by_cases nothing : Text.trimEnd (' ' :: tag.first) = []
  · have ends : ∀ c ∈ ('@' :: tag.name).getLast?, Text.isBlank c = false := by
      intro c last
      rcases List.mem_cons.mp (List.mem_of_getLast? last) with rfl | inside
      · decide
      · exact (continuesTagName_excludes (named.continues c inside)).1
    rw [Text.trimEnd_append_of_nil nothing, Text.trimEnd_eq_self ends, nothing, List.append_nil]
  · rw [Text.trimEnd_append nothing, List.cons_append]

/-- The opening line is of the form of a tag, whether or not anything stands behind the name. -/
theorem pattern (named : IsTagName tag.name)
    (ended : ∀ c ∈ tag.first.getLast?, Text.isBlank c = false) :
    TagPattern tag.group.line tag.name tag.remainder := by
  have opened : tag.group.line = '@' :: (tag.name ++ tag.remainder) := trimEnd_opening named
  refine ⟨named, ?_, ?_⟩
  · have begins : Text.trimStart tag.group.line = tag.group.line := by
      apply Text.trimStart_of_begins
      rw [opened]
      exact ⟨'@', rfl, by decide⟩
    rw [Text.trim, begins, ← opened]
    exact Text.trimEnd_trimEnd tag.opening
  · intro c first
    rcases remainder_cases ended with nothing | something
    · rw [nothing.2] at first
      cases first
    · rw [something, List.head?_cons, Option.mem_some_iff] at first
      rw [← first]
      decide

theorem braceBalance_group (named : IsTagName tag.name)
    (ended : ∀ c ∈ tag.first.getLast?, Text.isBlank c = false) :
    braceBalance tag.group.line = braceBalance tag.first := by
  have opened : tag.group.line = ['@'] ++ (tag.name ++ tag.remainder) := trimEnd_opening named
  have behind : braceBalance tag.remainder = braceBalance tag.first := by
    rcases remainder_cases ended with nothing | something
    · rw [nothing.1, nothing.2]
    · rw [something]
      exact (braceBalance_append [' '] tag.first).trans (Int.zero_add _)
  have mark : braceBalance ['@'] = 0 := rfl
  rw [opened, braceBalance_append, braceBalance_append, named.braceBalance_eq, behind, mark]
  omega

theorem tag_group (named : IsTagName tag.name)
    (ended : ∀ c ∈ tag.first.getLast?, Text.isBlank c = false)
    (tight : Text.trim (Text.joined ['\n'] tag.lines) = Text.joined ['\n'] tag.lines) :
    tag.group.tag = tag.docTag := by
  have content : paragraph (tag.remainder :: tag.more) = Text.joined ['\n'] tag.lines := by
    rw [← tight]
    rcases remainder_cases ended with nothing | something
    · rw [nothing.2, lines, nothing.1]
      rfl
    · have ends := (pattern named ended).remainder_ends
      rw [← paragraph_trim_cons ends, something, Text.trim_cons (by decide),
        paragraph_trim_cons ended]
      rfl
  have read := (pattern named ended).tag_eq tag.more
  rw [content] at read
  exact read

end LaidTag

variable {summary : List Text} {tags : List LaidTag}

theorem Canonical.ended_first (canonical : Canonical summary tags) {tag : LaidTag}
    (listed : tag ∈ tags) : ∀ c ∈ tag.first.getLast?, Text.isBlank c = false := by
  apply canonical.ended
  apply List.mem_append_right
  exact List.mem_flatMap_of_mem listed List.mem_cons_self

theorem Canonical.proper (canonical : Canonical summary tags) :
    Filing.Proper ⟨summary, tags.map LaidTag.group⟩ := by
  refine ⟨?_, ?_, ?_, ?_⟩
  · intro line listed matching
    obtain ⟨c, rest, split, letter⟩ := matchesTag_iff.mp matching
    rw [canonical.plain line listed c rest split] at letter
    cases letter
  · rw [List.forall_mem_map]
    intro tag listed
    exact ⟨_, _, LaidTag.pattern (canonical.named tag listed) (canonical.ended_first listed)⟩
  · rw [List.forall_mem_map]
    intro tag listed
    rw [LaidTag.braceBalance_group (canonical.named tag listed) (canonical.ended_first listed)]
    exact canonical.inside tag listed
  · rw [← List.map_dropLast, List.forall_mem_map]
    intro tag early
    have listed := (List.dropLast_sublist tags).subset early
    have low := canonical.closed tag early
    rw [LaidTag.lines, List.flatten_cons, braceBalance_append] at low
    rw [Group.lines, List.flatten_cons, braceBalance_append,
      LaidTag.braceBalance_group (canonical.named tag listed) (canonical.ended_first listed)]
    exact low

theorem Canonical.unbroken_written (canonical : Canonical summary tags) :
    ∀ line ∈ summary ++ tags.flatMap fun tag => tag.opening :: tag.more,
      ∀ c ∈ line, Text.isLineBreak c = false := by
  have each := canonical.unbroken
  rw [List.forall_mem_append, List.forall_mem_flatMap] at each ⊢
  refine ⟨each.1, ?_⟩
  intro tag listed
  have own := each.2 tag listed
  rw [LaidTag.lines, List.forall_mem_cons] at own
  rw [List.forall_mem_cons]
  refine ⟨?_, own.2⟩
  have name : ∀ c ∈ tag.name, Text.isLineBreak c = false := by
    intro c inside
    have continues := (canonical.named tag listed).continues c inside
    exact Text.not_isLineBreak (continuesTagName_excludes continues).1
  rw [LaidTag.opening, List.forall_mem_cons, List.forall_mem_append, List.forall_mem_cons]
  exact ⟨by decide, name, by decide, own.1⟩

theorem Canonical.trimEnd_written (canonical : Canonical summary tags) :
    (summary ++ tags.flatMap fun tag => tag.opening :: tag.more).map Text.trimEnd =
      Filing.lines ⟨summary, tags.map LaidTag.group⟩ := by
  have each := canonical.ended
  rw [List.forall_mem_append, List.forall_mem_flatMap] at each
  have kept : ∀ lines : List Text,
      (∀ line ∈ lines, ∀ c ∈ line.getLast?, Text.isBlank c = false) →
      lines.map Text.trimEnd = lines := by
    intro lines ended
    have same := List.map_congr_left fun line listed => Text.trimEnd_eq_self (ended line listed)
    rwa [List.map_id'] at same
  rw [Filing.lines, List.map_append, kept summary each.1, List.map_flatMap, List.flatMap_map]
  congr 1
  apply List.flatMap_congr
  intro tag listed
  have own := each.2 tag listed
  rw [LaidTag.lines, List.forall_mem_cons] at own
  rw [List.map_cons, kept tag.more own.2]
  rfl

/-- A block that has been laid out is parsed back into its summary and its tags. -/
theorem parse_layout (canonical : Canonical summary tags) :
    parse (layout summary tags) =
      .ok ⟨Text.joined ['\n'] summary, tags.map LaidTag.docTag⟩ := by
  have filed := canonical.proper.ofLines_eq
  have content : (tags.map LaidTag.group).map Group.tag = tags.map LaidTag.docTag := by
    rw [List.map_map]
    apply List.map_congr_left
    intro tag listed
    exact LaidTag.tag_group (canonical.named tag listed) (canonical.ended_first listed)
      (canonical.content_tight tag listed)
  have title : paragraph summary = Text.joined ['\n'] summary := canonical.summary_tight
  rw [layout, parse_starred canonical.unbroken_written, canonical.trimEnd_written, filed,
    Filing.block, content]
  simp only [title]

section Example

/-- A summary of three lines, the second of them empty. -/
def laidSummary : List Text :=
  ["Fires.".toList, [], "  Later.".toList]

/-- A tag with an option in braces and a starred line, a tag that stays open, and one without
content in between. -/
def laidTags : List LaidTag :=
  [⟨"param".toList, "array $a \x7b".toList, ["  @type int $id".toList, [], "* \x7d".toList]⟩,
    ⟨"internal".toList, [], []⟩, ⟨"see-also".toList, "\x7b".toList, ["@link".toList]⟩]

theorem isTagName_of_all {c : Char} {rest : Text} (letter : Text.isAsciiLetter c = true)
    (continues : rest.all continuesTagName = true) : IsTagName (c :: rest) :=
  ⟨c, rest, rfl, letter, List.all_eq_true.mp continues⟩

theorem canonical_laid : Canonical laidSummary laidTags := by
  have unbroken : (laidSummary ++ laidTags.flatMap LaidTag.lines).all
      (fun line => line.all fun c => !Text.isLineBreak c) = true := by decide
  have ended : (laidSummary ++ laidTags.flatMap LaidTag.lines).all
      (fun line => line.getLast?.all fun c => !Text.isBlank c) = true := by decide
  have plain : laidSummary.all (fun line => !isTagLine line) = true := by decide
  refine ⟨?_, ?_, ?_, by decide, ?_, ?_, ?_, ?_⟩
  · simp only [laidTags, List.forall_mem_cons]
    exact ⟨isTagName_of_all (by decide) (by decide), isTagName_of_all (by decide) (by decide),
      isTagName_of_all (by decide) (by decide), by simp⟩
  · intro line listed c inside
    have own := List.all_eq_true.mp (List.all_eq_true.mp unbroken line listed) c inside
    simpa using own
  · intro line listed c last
    have own := List.all_eq_true.mp ended line listed
    rw [Option.mem_def.mp last] at own
    simpa using own
  · simp only [laidTags, List.forall_mem_cons]
    exact ⟨by decide, by decide, by decide, by simp⟩
  · intro line listed c rest split
    rw [Bool.eq_false_iff]
    intro letter
    have own := List.all_eq_true.mp plain line listed
    rw [isTagLine_iff.mpr (matchesTag_iff.mpr ⟨c, rest, split, letter⟩)] at own
    cases own
  · have option : Inside 1 ["  @type int $id".toList, [], "* \x7d".toList] :=
      inside_cons_iff.mpr ⟨by decide, inside_cons_iff.mpr ⟨by decide,
        inside_cons_iff.mpr ⟨by decide, Inside.nil _⟩⟩⟩
    have link : Inside 1 ["@link".toList] := inside_cons_iff.mpr ⟨by decide, Inside.nil _⟩
    simp only [laidTags, List.forall_mem_cons]
    exact ⟨option, Inside.nil _, link, by simp⟩
  · simp only [laidTags, List.dropLast, List.forall_mem_cons]
    exact ⟨by decide, by decide, by simp⟩

theorem parse_laid :
    Canonical laidSummary laidTags ∧
    parse (layout laidSummary laidTags) =
      .ok ⟨"Fires.\n\n  Later.".toList,
        [⟨"param".toList, "array $a \x7b\n  @type int $id\n\n* \x7d".toList⟩,
          ⟨"internal".toList, []⟩, ⟨"see-also".toList, "\x7b\n@link".toList⟩]⟩ :=
  ⟨canonical_laid, parse_layout canonical_laid⟩

end Example

end Canonical

end PhpHooks.DocBlock
