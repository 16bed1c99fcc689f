import PhpHooks.Proofs.DocBlock.Layout
import PhpHooks.Proofs.DocBlock.Nesting

set_option autoImplicit false

/-!
Documentation comments with a line for each of a number of types. The block that such a comment
holds has a parameter for each line, and the parameter's type is the text on the line.
-/
namespace PhpHooks

/-- Texts that can stand as a type in front of a variable: nested texts that are not taken for a
variable, and whose last character does not carry the type on across the blank behind it. -/
structure ParamTag.TypeText (t : Text) : Prop where
  nested : Nested false t
  begins : ∃ c ∈ t.head?, Text.isBlank c = false ∧ c ≠ '$' ∧ c ≠ '&' ∧ c ≠ '.'
  ends : ∃ c ∈ t.getLast?, Text.isBlank c = false ∧ c ≠ '|' ∧ c ≠ ':' ∧ c ≠ ','

namespace DocBlock

/-- What a parameter line says behind the name of its tag. -/
def paramContent (t : Text) : Text :=
  t ++ " $p".toList

def paramTag (t : Text) : Text :=
  "@param ".toList ++ paramContent t

def paramLine (t : Text) : Text :=
  " * ".toList ++ paramTag t

/-- The comment with a parameter for each type. -/
def paramComment (types : List Text) : Text :=
  Text.joined ['\n'] ("/**".toList :: types.map paramLine ++ [" */".toList])

end DocBlock

namespace ParamTag

variable {t : Text}

theorem TypeText.tight (typeText : TypeText t) : Text.Tight t := by
  obtain ⟨-, ⟨c, first, ink, -⟩, d, last, dark, -⟩ := typeText
  exact ⟨⟨c, first, ink⟩, ⟨d, last, dark⟩⟩

theorem TypeText.tight_paramContent (typeText : TypeText t) :
    Text.Tight (DocBlock.paramContent t) :=
  Text.Tight.append typeText.tight.begins ⟨'p', rfl, by decide⟩

theorem TypeText.tight_paramTag (typeText : TypeText t) : Text.Tight (DocBlock.paramTag t) :=
  Text.Tight.append ⟨'@', rfl, by decide⟩ typeText.tight_paramContent.ends

theorem skipMark_of_other {opening t : Text} (other : Text.startsWith t opening = false) :
    skipMark opening t = ([], t) := by
  simp [skipMark, other]

theorem startsWith_spread_of_ne {c : Char} (other : c ≠ '.') (t : Text) :
    Text.startsWith (c :: t) ['.', '.', '.'] = false := by
  simp [Text.startsWith, List.isPrefixOf, other.symm]

/-- A text has no variable in front that begins with neither a variable nor one of its marks. -/
theorem parameter?_eq_none {c : Char} (dollar : c ≠ '$') (reference : c ≠ '&')
    (noSpread : Text.startsWith (c :: t) ['.', '.', '.'] = false) : parameter? (c :: t) = none := by
  have noReference : Text.startsWith (c :: t) ['&'] = false := by
    simp [Text.startsWith, List.isPrefixOf, reference.symm]
  simp [parameter?, skipMark_of_other noReference, skipMark_of_other noSpread, dollar]

theorem parameter?_variable {name : Text} (filled : name ≠ [])
    (word : ∀ c ∈ name, Text.isWord c = true) :
    parameter? ('$' :: name) = some ('$' :: name, []) := by
  have noReference : Text.startsWith ('$' :: name) ['&'] = false := rfl
  have noSpread : Text.startsWith ('$' :: name) ['.', '.', '.'] = false := rfl
  have ended : Lexeme.Stops Text.isWord [] := by simp [Lexeme.Stops]
  have taken := Lexeme.takeWhile_run word ended
  have left := Lexeme.dropWhile_run word ended
  rw [List.append_nil] at taken left
  simp [parameter?, skipMark_of_other noReference, skipMark_of_other noSpread, taken, left, filled]

theorem lastInk_concat (last : Option Char) (front : Text) {c : Char}
    (ink : Text.isBlank c = false) : lastInk last (front ++ [c]) = some c := by
  rw [lastInk_append, lastInk_cons ink]
  rfl

/-- Texts that are read up to their end in front of a variable, and are not taken for one. -/
structure TypeSpan (t : Text) : Prop where
  passes : Passes [] [] t
  unnamed : ∀ rest, parameter? (t ++ rest) = none
  begins : ∃ c ∈ t.head?, Text.isBlank c = false
  ends : ∃ c ∈ t.getLast?, Text.isBlank c = false ∧ c ≠ '|' ∧ c ≠ ':' ∧ c ≠ ','

/-- A type ends before the variable behind it. -/
theorem TypeSpan.splitType_eq (span : TypeSpan t) (name : Text) :
    splitType ⟨[], none, none⟩ (t ++ ' ' :: '$' :: name) = (t, ' ' :: '$' :: name) := by
  have last : continuesAfter (lastInk none t) = false := by
    obtain ⟨c, last, ink, bar, colon, comma⟩ := span.ends
    obtain ⟨front, rfl⟩ := List.getLast?_eq_some_iff.mp last
    rw [lastInk_concat none front ink]
    simp [continuesAfter, bar, colon, comma]
  have stops : Reading.stopsAt ⟨[], none, lastInk none t⟩ ' ' ('$' :: name) = true := by
    have blank : Text.isBlank ' ' = true := by decide
    have dollar : Text.isBlank '$' = false := by decide
    simp [Reading.stopsAt, last, blank, continuesInto, Text.trimStart, dollar]
  rw [span.passes]
  simp [splitType, stops]

/-- The type and the variable of a tag; if the brackets of the type are not counted as closed, all
is description. -/
theorem TypeSpan.ofContent_eq (span : TypeSpan t) {name : Text} (filled : name ≠ [])
    (word : ∀ c ∈ name, Text.isWord c = true) :
    ofContent (t ++ ' ' :: '$' :: name) =
      if isBalanced t then ⟨some t, some ('$' :: name), []⟩
      else ⟨none, none, t ++ ' ' :: '$' :: name⟩ := by
  have dark : ∃ c ∈ ('$' :: name).getLast?, Text.isBlank c = false := by
    refine ⟨name.getLast filled, ?_, ?_⟩
    · simp [List.getLast?_cons, List.getLast?_eq_some_getLast filled]
    · rw [Bool.eq_false_iff]
      intro blank
      have inside := word _ (List.getLast_mem filled)
      rw [(Text.isBlank_excludes blank).2.1] at inside
      cases inside
  have content : Text.Tight (t ++ ' ' :: '$' :: name) := by
    refine Text.Tight.append span.begins ?_
    rwa [List.getLast?_cons_cons]
  have tight : Text.Tight ('$' :: name) := ⟨⟨'$', rfl, by decide⟩, dark⟩
  have trimmed : Text.trim (' ' :: '$' :: name) = '$' :: name := by
    rw [Text.trim_cons (by decide), tight.trim_eq]
  have type : Text.Tight t := by
    obtain ⟨c, last, ink, -⟩ := span.ends
    exact ⟨span.begins, c, last, ink⟩
  have notEmpty : t.isEmpty = false := by
    obtain ⟨c, first, -⟩ := span.begins
    obtain ⟨rest, rfl⟩ := List.head?_eq_some_iff.mp first
    rfl
  unfold ofContent
  simp only [content.trim_eq, span.unnamed, span.splitType_eq, type.trim_eq, notEmpty, trimmed,
    parameter?_variable filled word]
  cases isBalanced t <;> rfl

theorem TypeText.span (typeText : TypeText t) : TypeSpan t := by
  refine ⟨passes_nested typeText.nested (by simp) (by simp), ?_, typeText.tight.begins,
    typeText.ends⟩
  intro rest
  obtain ⟨c, first, -, dollar, reference, spread⟩ := typeText.begins
  obtain ⟨tail, rfl⟩ := List.head?_eq_some_iff.mp first
  exact parameter?_eq_none dollar reference (startsWith_spread_of_ne spread _)

/-- The type and the variable of a parameter line. -/
theorem TypeText.ofContent_eq (typeText : TypeText t) :
    ofContent (DocBlock.paramContent t) = ⟨some t, some "$p".toList, []⟩ := by
  have word : ∀ c ∈ ['p'], Text.isWord c = true := List.forall_mem_singleton.mpr (by decide)
  have read := typeText.span.ofContent_eq (by simp) word
  rwa [if_pos (level_nested typeText.nested).isBalanced] at read

end ParamTag

namespace DocBlock

open ParamTag (TypeText)

variable {t : Text} {types : List Text}

theorem tagLine?_paramTag (typeText : TypeText t) :
    tagLine? (paramTag t) = some ("param".toList, paramContent t) := by
  have content : Text.trim (' ' :: paramContent t) = paramContent t := by
    rw [Text.trim_cons (by decide), typeText.tight_paramContent.trim_eq]
  have letters : ∀ c ∈ "aram".toList, continuesTagName c = true := by simp; decide
  have ended : Lexeme.Stops continuesTagName (' ' :: paramContent t) := by
    rintro c ⟨⟩
    decide
  have shown : paramTag t = '@' :: 'p' :: ("aram".toList ++ ' ' :: paramContent t) := rfl
  rw [tagLine?, typeText.tight_paramTag.trim_eq, shown]
  simp only [Lexeme.takeWhile_run letters ended, Lexeme.dropWhile_run letters ended, content]
  rfl

theorem braceBalance_paramTag (typeText : TypeText t) : braceBalance (paramTag t) = 0 := by
  have braces := ParamTag.count_nested typeText.nested
  have front : "@param ".toList.count '\x7b' = "@param ".toList.count '\x7d' := by decide
  have back : " $p".toList.count '\x7b' = " $p".toList.count '\x7d' := by decide
  have same : (paramTag t).count '\x7b' = (paramTag t).count '\x7d' := by
    unfold paramTag paramContent
    simp only [List.count_append, front, braces, back]
  unfold braceBalance
  omega

theorem isLineBreak_paramTag (typeText : TypeText t) :
    ∀ c ∈ paramTag t, Text.isLineBreak c = false := by
  have front : ∀ c ∈ "@param ".toList, Text.isLineBreak c = false := by simp; decide
  have back : ∀ c ∈ " $p".toList, Text.isLineBreak c = false := by simp; decide
  have shown : paramTag t = "@param ".toList ++ (t ++ " $p".toList) := rfl
  rw [shown, List.forall_mem_append, List.forall_mem_append]
  exact ⟨front, ParamTag.isLineBreak_of_nested typeText.nested, back⟩

section Comment

theorem paramComment_eq (types : List Text) :
    paramComment types = starred (types.map paramTag) := by
  rw [paramComment, starred, List.map_map]
  rfl

/-- Every parameter line begins a tag of its own. -/
theorem proper_paramTags (each : ∀ t ∈ types, TypeText t) :
    Filing.Proper ⟨[], types.map fun t => ⟨paramTag t, []⟩⟩ := by
  refine ⟨by simp, ?_, ?_, ?_⟩
  · rw [List.forall_mem_map]
    intro t listed
    rw [← isTagLine_iff, isTagLine, tagLine?_paramTag (each t listed)]
    rfl
  · rw [List.forall_mem_map]
    exact fun t _ => Inside.nil _
  · rw [← List.map_dropLast, List.forall_mem_map]
    intro t early
    have typeText := each t ((List.dropLast_sublist types).subset early)
    simp [Group.lines, braceBalance_paramTag typeText]

/-- The block that the comment holds documents a parameter for each type, in order. -/
theorem parse_paramComment (each : ∀ t ∈ types, TypeText t) :
    ∃ block, parse (paramComment types) = .ok block ∧
      block.params = types.map fun t => ⟨some t, some "$p".toList, []⟩ := by
  have unbroken : ∀ line ∈ types.map paramTag, ∀ c ∈ line, Text.isLineBreak c = false :=
    List.forall_mem_map.mpr fun t listed => isLineBreak_paramTag (each t listed)
  have lines : (types.map paramTag).map Text.trimEnd =
      Filing.lines ⟨[], types.map fun t => ⟨paramTag t, []⟩⟩ := by
    rw [Filing.lines, List.map_map, List.flatMap_map, List.nil_append, List.map_eq_flatMap]
    apply List.flatMap_congr
    intro t listed
    exact congrArg (fun line => [line]) (Text.trimEnd_of_ends (each t listed).tight_paramTag.ends)
  have tags : (types.map fun t => (⟨paramTag t, []⟩ : Group)).map Group.tag =
      types.map fun t => ⟨"param".toList, paramContent t⟩ := by
    rw [List.map_map]
    apply List.map_congr_left
    intro t listed
    have tight := (each t listed).tight_paramContent.trim_eq
    simp [Group.tag, Group.tagLines, tagLine?_paramTag (each t listed), paragraph,
      Text.joined_singleton, tight]
  rw [paramComment_eq, parse_starred unbroken, lines, (proper_paramTags each).ofLines_eq]
  refine ⟨_, rfl, ?_⟩
  have contents : (Filing.block ⟨[], types.map fun t => ⟨paramTag t, []⟩⟩).contents "param".toList =
      types.map paramContent := by
    rw [DocBlock.contents, Filing.block, tags, List.filter_eq_self.mpr (by simp), List.map_map]
    rfl
  rw [DocBlock.params, contents, List.map_map]
  exact List.map_congr_left fun t listed => (each t listed).ofContent_eq

end Comment

end DocBlock
end PhpHooks
