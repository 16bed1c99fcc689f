import Mathlib.Data.List.Forall2
import PhpHooks.DocBlock.Basic
import PhpHooks.Proofs.Text.Lines
import PhpHooks.Proofs.TypeExpr.Lexing

set_option autoImplicit false

/-!
How the lines of a documentation block are filed. The lines in front of the first tag make up the
summary, and every later line belongs to the tag whose group it stands in. Which line begins a new
group is settled by the braces of the group before it, so there is one filing and no other.
-/
namespace PhpHooks.DocBlock

open Lexeme (Stops)

section Pattern

/-- An ASCII letter and characters that go on with a name. -/
def IsTagName (name : Text) : Prop :=
  ∃ c rest, name = c :: rest ∧ Text.isAsciiLetter c = true ∧
    ∀ d ∈ rest, continuesTagName d = true

/-- The line is an at sign, a name and a remainder that does not go on with the name, with blanks
around them. -/
structure TagPattern (line name remainder : Text) : Prop where
  named : IsTagName name
  split : Text.trim line = '@' :: (name ++ remainder)
  ended : Stops continuesTagName remainder

/-- Whether a line is of the form of a tag's first line. -/
def MatchesTag (line : Text) : Prop :=
  ∃ name remainder, TagPattern line name remainder

variable {line name remainder first : Text}

theorem TagPattern.tagLine?_eq (found : TagPattern line name remainder) :
    tagLine? line = some (name, Text.trim remainder) := by
  obtain ⟨c, rest, rfl, letter, continues⟩ := found.named
  rw [tagLine?, found.split, List.cons_append]
  simp only [letter, if_true, Lexeme.takeWhile_run continues found.ended,
    Lexeme.dropWhile_run continues found.ended]

theorem exists_tagPattern (found : tagLine? line = some (name, first)) :
    ∃ remainder, TagPattern line name remainder ∧ Text.trim remainder = first := by
  unfold tagLine? at found
  split at found
  next c rest split =>
    by_cases letter : Text.isAsciiLetter c = true
    · simp only [letter, if_true, Option.some.injEq, Prod.mk.injEq] at found
      refine ⟨rest.dropWhile continuesTagName, ⟨?_, ?_, ?_⟩, found.2⟩
      · exact ⟨c, _, found.1.symm, letter, fun d inside => Lexeme.mem_takeWhile inside⟩
      · rw [split, ← found.1, List.cons_append, List.takeWhile_append_dropWhile]
      · exact Lexeme.stops_dropWhile continuesTagName rest
    · simp [letter] at found
  next => cases found

theorem isTagLine_iff : isTagLine line = true ↔ MatchesTag line := by
  rw [isTagLine, Option.isSome_iff_exists]
  constructor
  · intro found
    obtain ⟨⟨name, first⟩, found⟩ := found
    obtain ⟨remainder, pattern, -⟩ := exists_tagPattern found
    exact ⟨name, remainder, pattern⟩
  · intro matching
    obtain ⟨name, remainder, pattern⟩ := matching
    exact ⟨_, pattern.tagLine?_eq⟩

theorem matchesTag_iff :
    MatchesTag line ↔ ∃ c rest, Text.trim line = '@' :: c :: rest ∧ Text.isAsciiLetter c = true := by
  constructor
  · intro matching
    obtain ⟨name, remainder, ⟨c, rest, rfl, letter, -⟩, split, -⟩ := matching
    exact ⟨c, rest ++ remainder, split, letter⟩
  · intro marked
    obtain ⟨c, rest, split, letter⟩ := marked
    rw [← isTagLine_iff, isTagLine, tagLine?, split]
    simp [letter]

instance : DecidablePred MatchesTag := fun _ => decidable_of_iff _ isTagLine_iff

end Pattern

section Groups

/-- A tag's first line and the lines that go on with it. -/
structure Group where
  line : Text
  more : List Text

def Group.lines (group : Group) : List Text :=
  group.line :: group.more

/-- The lines behind braces that balance to `balance`: a line of the form of a tag stands among them
only where braces are open. -/
def Inside (balance : Int) (lines : List Text) : Prop :=
  ∀ front line back, lines = front ++ line :: back → MatchesTag line →
    0 < balance + braceBalance front.flatten

/-- The lines of a summary and the groups of the tags behind it. -/
structure Filing where
  summary : List Text
  groups : List Group

def Filing.lines (filing : Filing) : List Text :=
  filing.summary ++ filing.groups.flatMap Group.lines

/-- A line of the form of a tag begins a group, unless braces are open in the group that it comes
behind; then it belongs to that group. -/
structure Filing.Proper (filing : Filing) : Prop where
  plain : ∀ line ∈ filing.summary, ¬ MatchesTag line
  begins : ∀ group ∈ filing.groups, MatchesTag group.line
  inside : ∀ group ∈ filing.groups, Inside (braceBalance group.line) group.more
  closed : ∀ group ∈ filing.groups.dropLast, braceBalance group.lines.flatten ≤ 0

/-- The same along the groups: lines that go on behind braces that balance to `balance`, and the
groups after them. -/
inductive Filed : Int → List Text → List Group → Prop
  | last {balance : Int} {own : List Text} : Inside balance own → Filed balance own []
  | next {balance : Int} {own : List Text} {group : Group} {others : List Group} :
      Inside balance own → balance + braceBalance own.flatten ≤ 0 → MatchesTag group.line →
      Filed (braceBalance group.line) group.more others → Filed balance own (group :: others)

theorem braceBalance_nil : braceBalance [] = 0 := rfl

theorem braceBalance_append (s t : Text) :
    braceBalance (s ++ t) = braceBalance s + braceBalance t := by
  unfold braceBalance
  rw [List.count_append, List.count_append]
  omega

theorem Inside.nil (balance : Int) : Inside balance [] := by
  intro front line back split
  simp at split

theorem inside_cons_iff {balance : Int} {line : Text} {rest : List Text} :
    Inside balance (line :: rest) ↔
      (MatchesTag line → 0 < balance) ∧ Inside (balance + braceBalance line) rest := by
  constructor
  · intro inside
    constructor
    · intro matching
      simpa [braceBalance_nil] using inside [] line rest rfl matching
    · intro front other back split matching
      have behind := inside (line :: front) other back (by rw [split]; rfl) matching
      rw [List.flatten_cons, braceBalance_append] at behind
      omega
  · intro both front other back split matching
    cases front with
    | nil =>
        rw [List.nil_append, List.cons.injEq] at split
        have opened := both.1 (split.1 ▸ matching)
        simpa [braceBalance_nil] using opened
    | cons head front =>
        rw [List.cons_append, List.cons.injEq] at split
        have behind := both.2 front other back split.2 matching
        rw [split.1] at behind
        rw [List.flatten_cons, braceBalance_append]
        omega

theorem Filed.inside {balance : Int} {own : List Text} {groups : List Group}
    (filed : Filed balance own groups) : Inside balance own := by
  cases filed with
  | last inside => exact inside
  | next inside => exact inside

/-- A line goes on with the lines before it, if it begins no group. -/
theorem Filed.cons {balance : Int} {line : Text} {own : List Text} {groups : List Group}
    (goesOn : MatchesTag line → 0 < balance) (filed : Filed (balance + braceBalance line) own groups) :
    Filed balance (line :: own) groups := by
  have inside : Inside balance (line :: own) := inside_cons_iff.mpr ⟨goesOn, filed.inside⟩
  cases filed with
  | last => exact .last inside
  | next _ closed begins others =>
      refine .next inside ?_ begins others
      rw [List.flatten_cons, braceBalance_append]
      omega

theorem filed_cons_iff {balance : Int} {own : List Text} {group : Group} {others : List Group} :
    Filed balance own (group :: others) ↔
      Inside balance own ∧ balance + braceBalance own.flatten ≤ 0 ∧ MatchesTag group.line ∧
        Filed (braceBalance group.line) group.more others := by
  constructor
  · intro filed
    cases filed with
    | next inside closed begins behind => exact ⟨inside, closed, begins, behind⟩
  · intro conditions
    exact .next conditions.1 conditions.2.1 conditions.2.2.1 conditions.2.2.2

theorem forall_mem_dropLast_cons {p : Group → Prop} {group : Group} {others : List Group} :
    (∀ other ∈ (group :: others).dropLast, p other) ↔
      (others ≠ [] → p group) ∧ ∀ other ∈ others.dropLast, p other := by
  cases others with
  | nil => simp
  | cons next others =>
      rw [List.dropLast_cons_cons, List.forall_mem_cons]
      simp

/-- The conditions on the groups one by one are those along the groups. -/
theorem filed_iff {balance : Int} {own : List Text} {groups : List Group} :
    Filed balance own groups ↔
      Inside balance own ∧ (groups ≠ [] → balance + braceBalance own.flatten ≤ 0) ∧
        (∀ group ∈ groups, MatchesTag group.line) ∧
        (∀ group ∈ groups, Inside (braceBalance group.line) group.more) ∧
        ∀ group ∈ groups.dropLast, braceBalance group.lines.flatten ≤ 0 := by
  induction groups generalizing balance own with
  | nil =>
      constructor
      · intro filed
        exact ⟨filed.inside, by simp⟩
      · intro conditions
        exact .last conditions.1
  | cons group others ih =>
      have whole : braceBalance group.lines.flatten =
          braceBalance group.line + braceBalance group.more.flatten := by
        rw [Group.lines, List.flatten_cons, braceBalance_append]
      rw [filed_cons_iff, ih, List.forall_mem_cons, List.forall_mem_cons, forall_mem_dropLast_cons,
        whole]
      constructor
      · intro conditions
        obtain ⟨inside, closed, begins, more, handed, each, eachInside, eachClosed⟩ := conditions
        exact ⟨inside, fun _ => closed, ⟨begins, each⟩, ⟨more, eachInside⟩, handed, eachClosed⟩
      · intro conditions
        obtain ⟨inside, closed, ⟨begins, each⟩, ⟨more, eachInside⟩, handed, eachClosed⟩ := conditions
        exact ⟨inside, closed (by simp), begins, more, handed, each, eachInside, eachClosed⟩

end Groups

section Splitting

/-- The lines that go on behind braces that balance to `balance`, and the groups after them. It
cuts where `splitTags` cuts, and keeps the line that begins a group as it is. -/
def splitGroups (balance : Int) : List Text → List Text × List Group
  | [] => ([], [])
  | line :: rest =>
      if isTagLine line && balance ≤ 0 then
        let (own, others) := splitGroups (braceBalance line) rest
        ([], ⟨line, own⟩ :: others)
      else
        let (own, others) := splitGroups (balance + braceBalance line) rest
        (line :: own, others)

/-- The name of a group's tag and its lines, the first without the name. -/
def Group.tagLines (group : Group) : TagLines :=
  match tagLine? group.line with
  | some (name, first) => ⟨name, first :: group.more⟩
  | none => ⟨[], group.lines⟩

def Group.tag (group : Group) : DocTag :=
  ⟨group.tagLines.name, paragraph group.tagLines.lines⟩

theorem splitTags_eq (balance : Int) (lines : List Text) :
    splitTags balance lines =
      ((splitGroups balance lines).1, (splitGroups balance lines).2.map Group.tagLines) := by
  induction lines generalizing balance with
  | nil => rfl
  | cons line rest ih =>
      cases found : tagLine? line with
      | none => simp [splitTags, splitGroups, isTagLine, found, ih]
      | some tag =>
          by_cases low : balance ≤ 0
          · simp [splitTags, splitGroups, isTagLine, found, low, ih, Group.tagLines]
          · simp [splitTags, splitGroups, isTagLine, found, low, ih]

/-- Every line is filed once, in its place, and as it should be. -/
theorem filed_splitGroups (balance : Int) (lines : List Text) :
    Filed balance (splitGroups balance lines).1 (splitGroups balance lines).2 ∧
      (splitGroups balance lines).1 ++ (splitGroups balance lines).2.flatMap Group.lines =
        lines := by
  induction lines generalizing balance with
  | nil => exact ⟨.last (Inside.nil balance), rfl⟩
  | cons line rest ih =>
      by_cases begins : (isTagLine line && decide (balance ≤ 0)) = true
      · obtain ⟨filed, all⟩ := ih (braceBalance line)
        rw [splitGroups, if_pos begins]
        rw [Bool.and_eq_true, isTagLine_iff, decide_eq_true_eq] at begins
        refine ⟨.next (Inside.nil balance) ?_ begins.1 filed, ?_⟩
        · simpa [braceBalance_nil] using begins.2
        · simp [Group.lines, all]
      · obtain ⟨filed, all⟩ := ih (balance + braceBalance line)
        rw [splitGroups, if_neg begins]
        rw [Bool.and_eq_true, isTagLine_iff, decide_eq_true_eq] at begins
        refine ⟨filed.cons ?_, ?_⟩
        · intro matching
          have positive : ¬ balance ≤ 0 := fun low => begins ⟨matching, low⟩
          omega
        · simp [all]

/-- Lines that go on are passed over. -/
theorem Inside.splitGroups_append {balance : Int} {own : List Text} (inside : Inside balance own)
    (rest : List Text) :
    splitGroups balance (own ++ rest) =
      (own ++ (splitGroups (balance + braceBalance own.flatten) rest).1,
        (splitGroups (balance + braceBalance own.flatten) rest).2) := by
  induction own generalizing balance with
  | nil => simp [braceBalance_nil]
  | cons line own ih =>
      obtain ⟨goesOn, behind⟩ := inside_cons_iff.mp inside
      have passed : ¬ (isTagLine line && decide (balance ≤ 0)) = true := by
        rw [Bool.and_eq_true, isTagLine_iff, decide_eq_true_eq]
        intro begins
        have positive := goesOn begins.1
        omega
      rw [List.cons_append, splitGroups, if_neg passed, ih behind, List.flatten_cons,
        braceBalance_append, Int.add_assoc]
      rfl

/-- Lines that are filed as they should be are filed so by the splitting. -/
theorem Filed.splitGroups_eq {balance : Int} {own : List Text} {groups : List Group}
    (filed : Filed balance own groups) :
    splitGroups balance (own ++ groups.flatMap Group.lines) = (own, groups) := by
  induction filed with
  | last inside =>
      rw [inside.splitGroups_append]
      simp [splitGroups]
  | next inside closed begins _ ih =>
      rw [inside.splitGroups_append, List.flatMap_cons, Group.lines, List.cons_append, splitGroups,
        if_pos (by simp [isTagLine_iff.mpr begins, closed]), ih]
      simp

end Splitting

section Block

variable {filing : Filing}

theorem Filing.proper_iff :
    filing.Proper ↔ (∀ line ∈ filing.summary, ¬ MatchesTag line) ∧ Filed 0 [] filing.groups := by
  rw [filed_iff]
  constructor
  · intro proper
    exact ⟨proper.plain, Inside.nil 0, fun _ => by simp [braceBalance_nil], proper.begins,
      proper.inside, proper.closed⟩
  · intro conditions
    obtain ⟨plain, -, -, begins, inside, closed⟩ := conditions
    exact ⟨plain, begins, inside, closed⟩

/-- What stands behind the summary begins with a tag, if anything does. -/
theorem Filing.Proper.cut (proper : filing.Proper) :
    (filing.lines.takeWhile fun line => !isTagLine line) = filing.summary ∧
      (filing.lines.dropWhile fun line => !isTagLine line) =
        filing.groups.flatMap Group.lines := by
  have plain : ∀ line ∈ filing.summary, (!isTagLine line) = true := by
    intro line listed
    rw [Bool.not_eq_true', Bool.eq_false_iff, ne_eq, isTagLine_iff]
    exact proper.plain line listed
  rw [Filing.lines, List.takeWhile_append_of_pos plain, List.dropWhile_append_of_pos plain]
  cases groups : filing.groups with
  | nil => simp
  | cons group others =>
      have begins : isTagLine group.line = true :=
        isTagLine_iff.mpr (proper.begins group (by simp [groups]))
      simp [Group.lines, begins]

def Filing.ofLines (lines : List Text) : Filing :=
  { summary := lines.takeWhile fun line => !isTagLine line
    groups := (splitGroups 0 (lines.dropWhile fun line => !isTagLine line)).2 }

def Filing.block (filing : Filing) : DocBlock :=
  ⟨paragraph filing.summary, filing.groups.map Group.tag⟩

theorem ofLines_eq (lines : List Text) : DocBlock.ofLines lines = (Filing.ofLines lines).block := by
  rw [DocBlock.ofLines, splitTags_eq, List.map_map]
  rfl

theorem Filing.Proper.eq_ofLines (proper : filing.Proper) : filing = .ofLines filing.lines := by
  have split := (Filing.proper_iff.mp proper).2.splitGroups_eq
  rw [List.nil_append] at split
  rw [Filing.ofLines, proper.cut.1, proper.cut.2, split]

theorem Filing.Proper.ofLines_eq (proper : filing.Proper) :
    DocBlock.ofLines filing.lines = filing.block := by
  rw [DocBlock.ofLines_eq, ← proper.eq_ofLines]

theorem isTagLine_of_dropWhile {lines rest : List Text} {line : Text}
    (left : (lines.dropWhile fun line => !isTagLine line) = line :: rest) :
    isTagLine line = true := by
  have stopped := List.head?_dropWhile_not (fun line => !isTagLine line) lines
  rw [left] at stopped
  simpa using stopped

theorem Filing.proper_ofLines (lines : List Text) :
    (Filing.ofLines lines).Proper ∧ (Filing.ofLines lines).lines = lines := by
  have nothing :
      (splitGroups 0 (lines.dropWhile fun line => !isTagLine line)).1 = [] := by
    cases left : lines.dropWhile fun line => !isTagLine line with
    | nil => rfl
    | cons line rest => simp [splitGroups, isTagLine_of_dropWhile left]
  obtain ⟨filed, all⟩ := filed_splitGroups 0 (lines.dropWhile fun line => !isTagLine line)
  rw [nothing] at filed all
  constructor
  · refine Filing.proper_iff.mpr ⟨?_, filed⟩
    intro line listed
    have plain := List.all_eq_true.mp List.all_takeWhile line listed
    rw [← isTagLine_iff]
    simpa using plain
  · rw [Filing.lines, Filing.ofLines]
    rw [List.nil_append] at all
    rw [all, List.takeWhile_append_dropWhile]

/-- The tag of a group: its name stands on the first line, and it says what that line says behind
the name, followed by the other lines. -/
def Group.Spells (group : Group) (tag : DocTag) : Prop :=
  ∃ remainder, TagPattern group.line tag.name remainder ∧
    tag.content = paragraph (remainder :: group.more)

theorem paragraph_trim_cons {first : Text} (ends : ∀ c ∈ first.getLast?, Text.isBlank c = false)
    (more : List Text) : paragraph (Text.trim first :: more) = paragraph (first :: more) := by
  rw [Text.trim_eq_trimStart ends, paragraph, paragraph]
  cases more with
  | nil =>
      have alone := Text.trim_trimStart_append first []
      rw [List.append_nil, List.append_nil] at alone
      rw [Text.joined_singleton, Text.joined_singleton, alone]
  | cons next more =>
      rw [Text.joined_cons, Text.joined_cons, List.append_assoc, List.append_assoc,
        Text.trim_trimStart_append]

/-- No blank ends what a line says behind the name of its tag. -/
theorem TagPattern.remainder_ends {line name remainder : Text}
    (pattern : TagPattern line name remainder) :
    ∀ c ∈ remainder.getLast?, Text.isBlank c = false := by
  intro c last
  apply Text.isBlank_of_getLast?_trimEnd (t := Text.trimStart line)
  have split : Text.trimEnd (Text.trimStart line) = '@' :: name ++ remainder := pattern.split
  rw [Option.mem_def] at last ⊢
  rw [split, List.getLast?_append, last, Option.some_or]

theorem TagPattern.tag_eq {line name remainder : Text} (pattern : TagPattern line name remainder)
    (more : List Text) : Group.tag ⟨line, more⟩ = ⟨name, paragraph (remainder :: more)⟩ := by
  rw [← paragraph_trim_cons pattern.remainder_ends, Group.tag, Group.tagLines, pattern.tagLine?_eq]

theorem Group.spells_tag {group : Group} (begins : MatchesTag group.line) :
    group.Spells group.tag := by
  obtain ⟨name, remainder, pattern⟩ := begins
  rw [pattern.tag_eq]
  exact ⟨remainder, pattern, rfl⟩

end Block

section Comment

variable {comment body : Text}

theorem body?_of_trim (marked : Text.trim comment = "/**".toList ++ body ++ "*/".toList) :
    body? comment = some body := by
  have opened : Text.startsWith ("/**".toList ++ body ++ "*/".toList) ['/', '*', '*'] = true := by
    rw [List.append_assoc]
    exact Text.startsWith_append _ _
  have closed : Text.endsWith ("/**".toList ++ body ++ "*/".toList) ['*', '/'] = true :=
    Text.endsWith_append _ _
  have length : ("/**".toList ++ body ++ "*/".toList).length = body.length + 5 := by
    simp
  rw [body?, marked]
  simp only [opened, closed, length]
  simp

/-- The body of a block stands between its marks, which do not overlap. -/
theorem trim_of_body? (found : body? comment = some body) :
    Text.trim comment = "/**".toList ++ body ++ "*/".toList := by
  have marked := found
  simp only [body?, Bool.and_eq_true, decide_eq_true_eq, Option.ite_none_right_eq_some] at marked
  obtain ⟨⟨⟨opened, closed⟩, long⟩, -⟩ := marked
  rw [Text.startsWith, List.isPrefixOf_iff_prefix] at opened
  rw [Text.endsWith, List.isSuffixOf_iff_suffix] at closed
  obtain ⟨rest, opened⟩ := opened
  rw [← opened] at closed long
  have behind : ['*', '/'] <:+ rest := by
    refine List.suffix_of_suffix_length_le closed (List.suffix_append _ rest) ?_
    simp only [List.length_append, List.length_cons, List.length_nil] at long ⊢
    omega
  obtain ⟨inner, rfl⟩ := behind
  have whole : Text.trim comment = "/**".toList ++ inner ++ "*/".toList := opened.symm
  have same := body?_of_trim whole
  rw [found, Option.some.injEq] at same
  rw [whole, same]

/-- The cleaned lines of a block have exactly one filing, and the block is read off it: no line is
left out, none is taken twice, and each goes to the summary or to the tag whose group it is in. -/
theorem lines_filed_once {block : DocBlock} (parsed : parse comment = .ok block) :
    ∃ (body : Text) (filing : Filing),
      Text.trim comment = "/**".toList ++ body ++ "*/".toList ∧
      filing.Proper ∧ filing.lines = cleanLines body ∧
      (∀ other : Filing, other.Proper → other.lines = cleanLines body → other = filing) ∧
      block.summary = paragraph filing.summary ∧
      List.Forall₂ Group.Spells filing.groups block.tags := by
  unfold parse at parsed
  cases found : body? comment with
  | none =>
      rw [found] at parsed
      cases parsed
  | some body =>
      rw [found, Except.ok.injEq] at parsed
      obtain ⟨proper, all⟩ := Filing.proper_ofLines (cleanLines body)
      refine ⟨body, .ofLines (cleanLines body), trim_of_body? found, proper, all, ?_, ?_, ?_⟩
      · intro other otherProper otherAll
        rw [← otherAll]
        exact otherProper.eq_ofLines
      · rw [← parsed, ofLines_eq]
        rfl
      · rw [← parsed, ofLines_eq, Filing.block, List.forall₂_map_right_iff, List.forall₂_same]
        intro group listed
        exact Group.spells_tag (proper.begins group listed)

/-- A block with an option in braces, and a tag behind them. -/
def optionsComment : Text :=
  "/** Fires.\n * @param array $a \x7b\n *   @type int $id\n * \x7d\n * @since 1.0\n */".toList

/-- Its lines, three of which are of the form of a tag. -/
def optionsLines : List Text :=
  ["Fires.".toList, "@param array $a \x7b".toList, "  @type int $id".toList, "\x7d".toList,
    "@since 1.0".toList, []]

def optionsBlock : DocBlock :=
  { summary := "Fires.".toList
    tags := [⟨"param".toList, "array $a \x7b\n  @type int $id\n\x7d".toList⟩,
      ⟨"since".toList, "1.0".toList⟩] }

theorem parse_optionsComment : parse optionsComment = .ok optionsBlock := by
  rfl

/-- The line of the option begins no group. -/
theorem lines_filed_optionsComment :
    parse optionsComment = .ok optionsBlock ∧
    ∃ filing : Filing, filing.Proper ∧ filing.lines = optionsLines ∧
      filing.groups.length = 2 := by
  have cleaned : (body? optionsComment).map cleanLines = some optionsLines := by
    rfl
  obtain ⟨body, filing, marked, proper, all, -, -, groups⟩ := lines_filed_once parse_optionsComment
  rw [body?_of_trim marked, Option.map_some, Option.some.injEq] at cleaned
  exact ⟨parse_optionsComment, filing, proper, all.trans cleaned, groups.length_eq⟩

end Comment

end PhpHooks.DocBlock
