import PhpHooks.DocBlock.ArrayShape
import PhpHooks.Proofs.TypeExpr.Fragments

set_option autoImplicit false

/-!
Array shapes from `@type` lines. What such a line is and which lines a text has is said here without
the search for them. The shape that is spelled from the lines is read back with their keys and with
the types that stand on them.
-/
namespace PhpHooks.ArrayShape

open Lexeme (Stops)

section Lines

/-- The text begins with a `@type` line: the mark, a type without blanks, and a key behind a dollar
sign, with blanks between them. What follows does not go on with the key. -/
inductive TypeLine : Text → Text × Text → Text → Prop
  | mk {gap type space key rest : Text} :
      gap ≠ [] → (∀ c ∈ gap, Text.isBlank c = true) →
      type ≠ [] → (∀ c ∈ type, Text.isBlank c = false) →
      space ≠ [] → (∀ c ∈ space, Text.isBlank c = true) →
      key ≠ [] → (∀ c ∈ key, Text.isWord c = true) → Stops Text.isWord rest →
      TypeLine ("@type".toList ++ (gap ++ (type ++ (space ++ '$' :: (key ++ rest))))) (type, key) rest

/-- The lines of a text from left to right. The next line is the first that begins anywhere, and the
search goes on behind its key. -/
inductive TypeLines : Text → List (Text × Text) → Prop
  | nil : TypeLines [] []
  | skip {c : Char} {t : Text} {lines : List (Text × Text)} :
      (∀ line rest, ¬ TypeLine (c :: t) line rest) → TypeLines t lines → TypeLines (c :: t) lines
  | line {t rest : Text} {line : Text × Text} {lines : List (Text × Text)} :
      TypeLine t line rest → TypeLines rest lines → TypeLines t (line :: lines)

variable {t rest : Text} {line : Text × Text} {lines : List (Text × Text)}

theorem TypeLine.typeLine?_eq (found : TypeLine t line rest) : typeLine? t = some (line, rest) := by
  cases found with
  | @mk gap type space key _ gapFilled gapBlank typeFilled typeInk spaceFilled spaceBlank keyFilled
      keyWord ended =>
      have begins := Text.startsWith_append "@type".toList
        (gap ++ (type ++ (space ++ '$' :: (key ++ rest))))
      have behind : ("@type".toList ++ (gap ++ (type ++ (space ++ '$' :: (key ++ rest))))).drop 5 =
          gap ++ (type ++ (space ++ '$' :: (key ++ rest))) := rfl
      have typeSolid : ∀ c ∈ type, (!Text.isBlank c) = true := by
        intro c inside
        simp [typeInk c inside]
      have typeEnded : Stops (fun c => !Text.isBlank c) (space ++ '$' :: (key ++ rest)) := by
        apply Lexeme.stops_of_all spaceFilled
        intro c inside
        simp [spaceBlank c inside]
      have dollar : Stops Text.isBlank ('$' :: (key ++ rest)) := by
        intro c first
        rw [List.head?_cons, Option.mem_some_iff] at first
        rw [← first]
        decide
      have shorter : (type ++ (space ++ '$' :: (key ++ rest))).length <
          (gap ++ (type ++ (space ++ '$' :: (key ++ rest)))).length := by
        have gapLong := List.length_pos_of_ne_nil gapFilled
        simp only [List.length_append]
        omega
      have skipGap := Lexeme.dropWhile_run gapBlank (Lexeme.stops_of_all typeFilled typeInk
        (space ++ '$' :: (key ++ rest)))
      simp only [typeLine?, begins, behind, skipGap, Lexeme.takeWhile_run typeSolid typeEnded,
        Lexeme.dropWhile_run typeSolid typeEnded, Lexeme.dropWhile_run spaceBlank dollar,
        Lexeme.takeWhile_run keyWord ended, Lexeme.dropWhile_run keyWord ended, shorter]
      simp [typeFilled, keyFilled]

/-- The parts between which the search cuts make up a line. -/
theorem typeLine_of_cuts {behind more : Text}
    (shorter : (behind.dropWhile Text.isBlank).length < behind.length)
    (typeFilled : ((behind.dropWhile Text.isBlank).takeWhile fun c => !Text.isBlank c) ≠ [])
    (dollar : ((behind.dropWhile Text.isBlank).dropWhile fun c => !Text.isBlank c).dropWhile
      Text.isBlank = '$' :: more)
    (keyFilled : more.takeWhile Text.isWord ≠ []) :
    TypeLine ("@type".toList ++ behind)
      ((behind.dropWhile Text.isBlank).takeWhile fun c => !Text.isBlank c,
        more.takeWhile Text.isWord) (more.dropWhile Text.isWord) := by
  generalize inner : behind.dropWhile Text.isBlank = text at *
  generalize after : (text.dropWhile fun c => !Text.isBlank c) = tail at *
  have gap : behind.takeWhile Text.isBlank ++ text = behind := by
    rw [← inner, List.takeWhile_append_dropWhile]
  have type : (text.takeWhile fun c => !Text.isBlank c) ++ tail = text := by
    rw [← after, List.takeWhile_append_dropWhile]
  have space : tail.takeWhile Text.isBlank ++ '$' :: more = tail := by
    rw [← dollar, List.takeWhile_append_dropWhile]
  have gapFilled : behind.takeWhile Text.isBlank ≠ [] := by
    intro nothing
    rw [nothing, List.nil_append] at gap
    rw [gap] at shorter
    omega
  have spaceFilled : tail.takeWhile Text.isBlank ≠ [] := by
    intro nothing
    rw [nothing, List.nil_append] at space
    have stopped := Lexeme.stops_dropWhile (fun c => !Text.isBlank c) text '$' (by rw [after, ← space]; rfl)
    exact absurd stopped (by decide)
  have typeInk : ∀ c ∈ text.takeWhile fun c => !Text.isBlank c, Text.isBlank c = false := by
    intro c inside
    simpa using Lexeme.mem_takeWhile inside
  have whole : behind = behind.takeWhile Text.isBlank ++ ((text.takeWhile fun c => !Text.isBlank c) ++
      (tail.takeWhile Text.isBlank ++
        '$' :: (more.takeWhile Text.isWord ++ more.dropWhile Text.isWord))) := by
    rw [List.takeWhile_append_dropWhile, space, type, gap]
  have line := TypeLine.mk gapFilled (fun c => Lexeme.mem_takeWhile) typeFilled typeInk spaceFilled
    (fun c => Lexeme.mem_takeWhile) keyFilled (fun c => Lexeme.mem_takeWhile)
    (Lexeme.stops_dropWhile Text.isWord more)
  rwa [← whole] at line

theorem typeLine_of_typeLine? (found : typeLine? t = some (line, rest)) : TypeLine t line rest := by
  simp only [typeLine?] at found
  split at found
  · cases found
  next begins =>
  split at found
  next more dollar =>
    split at found
    next filled =>
      rw [Bool.not_eq_true', Bool.not_eq_false, Text.startsWith, List.isPrefixOf_iff_prefix] at begins
      obtain ⟨behind, rfl⟩ := begins
      have dropped : ("@type".toList ++ behind).drop 5 = behind := rfl
      rw [dropped] at found filled dollar
      simp only [Bool.and_eq_true, decide_eq_true_eq, Bool.not_eq_true', List.isEmpty_eq_false_iff]
        at filled
      rw [Option.some.injEq, Prod.mk.injEq] at found
      obtain ⟨rfl, rfl⟩ := found
      exact typeLine_of_cuts filled.1.1 filled.1.2 dollar filled.2
    · cases found
  · cases found

theorem typeLine?_eq_none (nowhere : ∀ line rest, ¬ TypeLine t line rest) : typeLine? t = none := by
  cases found : typeLine? t with
  | none => rfl
  | some result => exact absurd (typeLine_of_typeLine? found) (nowhere result.1 result.2)

theorem TypeLine.length_lt (found : TypeLine t line rest) : rest.length < t.length := by
  cases found with
  | mk =>
      simp only [List.length_append, List.length_cons]
      omega

/-- The lines of a text are found by any search that is long enough. -/
theorem TypeLines.within (listed : TypeLines t lines) {bound : Nat} (enough : t.length ≤ bound) :
    typeLinesWithin bound t = lines := by
  induction listed generalizing bound with
  | nil => simp [typeLinesWithin]
  | @skip c t lines nowhere _ ih =>
      rw [List.length_cons] at enough
      cases bound with
      | zero => omega
      | succ bound =>
          rw [typeLinesWithin, typeLine?_eq_none nowhere]
          exact ih (by omega)
  | @line t rest line lines found _ ih =>
      have shorter := found.length_lt
      cases bound with
      | zero => omega
      | succ bound =>
          cases t with
          | nil => exact absurd shorter (Nat.not_lt_zero _)
          | cons c t =>
              rw [typeLinesWithin, found.typeLine?_eq]
              exact congrArg (line :: ·) (ih (by omega))

theorem typeLines_within {bound : Nat} (enough : t.length ≤ bound) :
    TypeLines t (typeLinesWithin bound t) := by
  induction bound generalizing t with
  | zero =>
      rw [Nat.le_zero, List.length_eq_zero_iff] at enough
      rw [enough]
      exact .nil
  | succ bound ih =>
      cases t with
      | nil => exact .nil
      | cons c t =>
          rw [typeLinesWithin]
          cases found : typeLine? (c :: t) with
          | none =>
              refine .skip ?_ (ih (by simpa using enough))
              intro line rest begins
              rw [begins.typeLine?_eq] at found
              cases found
          | some result =>
              obtain ⟨line, rest⟩ := result
              have begins := typeLine_of_typeLine? found
              have shorter := begins.length_lt
              exact .line begins (ih (by omega))

theorem typeLines_eq_iff : typeLines t = lines ↔ TypeLines t lines := by
  constructor
  · intro found
    rw [← found]
    exact typeLines_within (Nat.le_refl _)
  · intro listed
    exact listed.within (Nat.le_refl _)

end Lines

section Shape

open TypeExpr (Spells SpellsItem)

/-- Whether a key is a name: ASCII letters, digits and underscores, with no digit in front. -/
def isNameKey (key : Text) : Bool :=
  key.all (fun c => Text.isAsciiLetter c || Text.isAsciiDigit c || c == '_') &&
    !key.head?.any Text.isAsciiDigit

/-- Such a key is one token. -/
theorem whole_of_isNameKey {key : Text} (isName : isNameKey key = true) (filled : key ≠ []) :
    Lexeme.Whole ⟨.name, key⟩ := by
  obtain ⟨c, rest, rfl⟩ := List.exists_cons_of_ne_nil filled
  simp only [isNameKey, List.all_cons, List.head?_cons, Option.any_some, Bool.and_eq_true,
    Bool.or_eq_true, beq_iff_eq, Bool.not_eq_true', List.all_eq_true] at isName
  obtain ⟨⟨first, others⟩, digitless⟩ := isName
  have starts : Lexeme.startsName c = true := by
    rcases first with (letter | digit) | underscore
    · simp [Lexeme.startsName, letter]
    · rw [digitless] at digit
      cases digit
    · simp [Lexeme.startsName, underscore]
  have continues : ∀ d ∈ rest, Lexeme.continuesName d = true := by
    intro d inside
    rcases others d inside with (letter | digit) | underscore
    · simp [Lexeme.continuesName, letter]
    · simp [Lexeme.continuesName, digit]
    · simp [Lexeme.continuesName, underscore]
  have ended : Stops Lexeme.continuesName [] := by simp [Stops]
  have taken := Lexeme.takeWhile_run continues ended
  have left := Lexeme.dropWhile_run continues ended
  rw [List.append_nil] at taken left
  apply Lexeme.first?_of_name
  rw [Lexeme.name?_of_plain rest starts, Lexeme.plainName?, if_pos starts, taken, left]

/-- A key, a colon and a type that can be read. -/
theorem spellsItem_of_parse {type key : Text} {u : UnionType} (isName : isNameKey key = true)
    (filled : key ≠ []) (parsed : TypeExpr.parse type = .ok u) :
    SpellsItem (key ++ ':' :: ' ' :: type) ⟨key, u, false⟩ := by
  obtain ⟨tokens, lexes, derived⟩ := TypeExpr.spells_of_parse parsed
  have item := TypeExpr.lexes_item false (TypeExpr.lexes_name (whole_of_isNameKey isName filled)) lexes
  simp only [Bool.false_eq_true, if_false, List.append_nil] at item
  exact ⟨_, tokens, item, rfl, derived⟩

/-- The items that lines and the types on them give. -/
def itemsOf (lines : List (Text × Text)) (types : List UnionType) : List ShapeItem :=
  List.zipWith (fun line u => ⟨line.2, u, false⟩) lines types

variable {lines : List (Text × Text)} {types : List UnionType}

theorem spellsItems_of_parse
    (accepted : List.Forall₂ (fun line u => TypeExpr.parse line.1 = .ok u) lines types)
    (keys : ∀ line ∈ lines, isNameKey line.2 = true ∧ line.2 ≠ []) :
    List.Forall₂ SpellsItem (lines.map fun (type, key) => key ++ ':' :: ' ' :: type)
      (itemsOf lines types) := by
  induction accepted with
  | nil => exact .nil
  | cons parsed _ ih =>
      rw [List.forall_mem_cons] at keys
      exact .cons (spellsItem_of_parse keys.1.1 keys.1.2 parsed) (ih keys.2)

/-- The text of a shape spells its items with the types that their texts spell. -/
theorem parse_spell
    (accepted : List.Forall₂ (fun line u => TypeExpr.parse line.1 = .ok u) lines types)
    (keys : ∀ line ∈ lines, isNameKey line.2 = true ∧ line.2 ≠ []) :
    TypeExpr.parse (spell lines) = .ok [.shape "array".toList (itemsOf lines types)] := by
  have closes : Lexes [' ', '\x7d'] [.ofMark '\x7d'] :=
    Lexes.blank (by decide) (Lexes.mark (by decide) Lexes.nil)
  have apart : Lexeme.Separated [' ', '\x7d'] := Lexeme.Separated.cons _ (by decide)
  obtain ⟨tokens, lexes, derived⟩ :=
    TypeExpr.spells_items (spellsItems_of_parse accepted keys) closes apart
  have named : TypeExpr.isShapeName "array".toList = true := by decide
  have shape := TypeExpr.spells_braces named
    ⟨tokens, Lexes.blank (c := ' ') (by decide) lexes, derived⟩
  have text : spell lines = "array".toList ++ '\x7b' :: ' ' ::
      (Text.joined [',', ' '] (lines.map fun (type, key) => key ++ ':' :: ' ' :: type) ++
        [' ', '\x7d']) := by
    unfold spell
    generalize "array".toList = name
    simp
  rw [← text] at shape
  exact TypeExpr.parse_of_spells shape.members.union

theorem TypeLine.key_ne_nil {t rest : Text} {line : Text × Text} (found : TypeLine t line rest) :
    line.2 ≠ [] := by
  cases found with
  | mk _ _ _ _ _ _ keyFilled => exact keyFilled

theorem TypeLines.keys_ne_nil {t : Text} (listed : TypeLines t lines) :
    ∀ line ∈ lines, line.2 ≠ [] := by
  induction listed with
  | nil => simp
  | skip _ _ ih => exact ih
  | line found _ ih => exact List.forall_mem_cons.mpr ⟨found.key_ne_nil, ih⟩

/-- A description with one opening brace and `@type` lines gives an array shape that has an item for
each line, in order, with the line's key and the type that stands on it. -/
theorem shape_of_typeLines {content : Text} (single : content.count '\x7b' = 1)
    (listed : TypeLines content lines) (filled : lines ≠ [])
    (accepted : List.Forall₂ (fun line u => TypeExpr.parse line.1 = .ok u) lines types)
    (keys : ∀ line ∈ lines, isNameKey line.2 = true) :
    ∃ shape, ofDescription? content = some shape ∧
      TypeExpr.parse shape = .ok [.shape "array".toList
        (List.zipWith (fun line u => ⟨line.2, u, false⟩) lines types)] := by
  refine ⟨spell lines, ?_, ?_⟩
  · have found := typeLines_eq_iff.mpr listed
    obtain ⟨line, others, rfl⟩ := List.exists_cons_of_ne_nil filled
    simp [ofDescription?, single, found]
  · exact parse_spell accepted fun line inside =>
      ⟨keys line inside, listed.keys_ne_nil line inside⟩

section Example

/-- A description of an array with two keys. -/
def callbackOptions : Text :=
  "Options \x7b\n  @type callable():int[] $on_done Called @type once.\n @type ?int $n2\n\x7d".toList

def callbackLines : List (Text × Text) :=
  [("callable():int[]".toList, "on_done".toList), ("?int".toList, "n2".toList)]

def callbackTypes : List UnionType :=
  [[.callable [] (some [.named "array".toList [[.named "int".toList []]]])],
    [.named "int".toList [], .named "null".toList []]]

theorem parse_callbackTypes :
    List.Forall₂ (fun line u => TypeExpr.parse line.1 = .ok u) callbackLines callbackTypes := by
  have lexed : Lexeme.tokens "callable():int[]".toList = .ok TypeExpr.callableToIntArray := by
    decide
  refine .cons ?_ (.cons parse_nullableInt .nil)
  rw [TypeExpr.parse_of_tokens lexed]
  exact TypeExpr.ofTokens_of_derives TypeExpr.derives_callableToIntArray

/-- The mark without a key behind it is passed over. -/
theorem shape_callbackOptions :
    TypeLines callbackOptions callbackLines ∧
    ∃ shape, ofDescription? callbackOptions = some shape ∧
      TypeExpr.parse shape = .ok [.shape "array".toList
        [⟨"on_done".toList,
            [.callable [] (some [.named "array".toList [[.named "int".toList []]]])], false⟩,
          ⟨"n2".toList, [.named "int".toList [], .named "null".toList []], false⟩]] := by
  have listed : TypeLines callbackOptions callbackLines := typeLines_eq_iff.mp (by decide)
  have keys : ∀ line ∈ callbackLines, isNameKey line.2 = true := by
    simp only [callbackLines, List.forall_mem_cons]
    exact ⟨by decide, by decide, by simp⟩
  exact ⟨listed, shape_of_typeLines (by decide) listed (by decide) parse_callbackTypes keys⟩

end Example

end Shape

end PhpHooks.ArrayShape
