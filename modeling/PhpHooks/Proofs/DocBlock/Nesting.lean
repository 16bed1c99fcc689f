import PhpHooks.DocBlock.ParamTag
import PhpHooks.Proofs.Text.Lines

set_option autoImplicit false

/-!
Nested texts: brackets stand in pairs, and blanks stand inside brackets or behind a colon. The
scanners of parameter tags read such a text as a whole: the one that looks for the end of a type
passes over it, the one that counts brackets finds them closed, and the one that counts braces
finds as many opening as closing ones.
-/
namespace PhpHooks.ParamTag

/-- The brackets that may enclose a part of a type. -/
def isBracket (c : Char) : Bool :=
  c == '<' || c == '>' || c == '\x7b' || c == '\x7d' || c == '(' || c == ')' || c == '[' || c == ']'

/-- Characters that stand for themselves wherever they are: no blanks, no quotation marks and no
brackets. -/
def isInk (c : Char) : Bool :=
  !Text.isBlank c && c != '\'' && c != '"' && !isBracket c

/-- Texts whose brackets stand in pairs. Blanks may stand behind a colon, and anywhere if the text
is inside brackets. -/
inductive Nested : (inside : Bool) → Text → Prop
  | nil {inside : Bool} : Nested inside []
  | ink {inside : Bool} {c : Char} {t : Text} : isInk c = true → Nested inside t →
      Nested inside (c :: t)
  | colon {inside : Bool} {t : Text} : Nested inside t → Nested inside (':' :: ' ' :: t)
  | space {t : Text} : Nested true t → Nested true (' ' :: t)
  | group {inside : Bool} {opening closing : Char} {inner t : Text} :
      closing? opening = some closing → Nested true inner → Nested inside t →
      Nested inside (opening :: (inner ++ closing :: t))

namespace Nested

variable {inside : Bool} {s t : Text}

theorem append (front : Nested inside s) (back : Nested inside t) : Nested inside (s ++ t) := by
  induction front with
  | nil => exact back
  | ink ink _ ih => exact .ink ink (ih back)
  | colon _ ih => exact .colon (ih back)
  | space _ ih => exact .space (ih back)
  | group pair inner _ _ ih =>
      rw [List.cons_append, List.append_assoc, List.cons_append]
      exact .group pair inner (ih back)

theorem within (nested : Nested false t) : Nested true t := by
  generalize outside : false = inside at nested
  induction nested with
  | nil => exact .nil
  | ink ink _ ih => exact .ink ink (ih outside)
  | colon _ ih => exact .colon (ih outside)
  | space _ _ => cases outside
  | group pair inner _ _ ih => exact .group pair inner (ih outside)

theorem ofInk (ink : ∀ c ∈ t, isInk c = true) : Nested inside t := by
  induction t with
  | nil => exact .nil
  | cons c rest ih =>
      rw [List.forall_mem_cons] at ink
      exact .ink ink.1 (ih ink.2)

/-- A text in brackets. -/
theorem enclosed {opening closing : Char} (pair : closing? opening = some closing)
    (nested : Nested true t) : Nested inside (opening :: t ++ [closing]) :=
  .group pair nested .nil

end Nested

section Characters

variable {c : Char}

theorem isInk_excludes (ink : isInk c = true) :
    Text.isBlank c = false ∧ c ≠ '\'' ∧ c ≠ '"' ∧ isBracket c = false := by
  simpa [isInk, and_assoc] using ink

/-- The four pairs of brackets. -/
theorem closing?_cases {opening closing : Char} (pair : closing? opening = some closing) :
    (opening = '<' ∧ closing = '>') ∨ (opening = '\x7b' ∧ closing = '\x7d') ∨
      (opening = '(' ∧ closing = ')') ∨ (opening = '[' ∧ closing = ']') := by
  simp only [closing?] at pair
  split at pair
  · next same => exact Or.inl ⟨beq_iff_eq.mp same, (Option.some.inj pair).symm⟩
  split at pair
  · next same => exact Or.inr (Or.inl ⟨beq_iff_eq.mp same, (Option.some.inj pair).symm⟩)
  split at pair
  · next same =>
      exact Or.inr (Or.inr (Or.inl ⟨beq_iff_eq.mp same, (Option.some.inj pair).symm⟩))
  split at pair
  · next same =>
      exact Or.inr (Or.inr (Or.inr ⟨beq_iff_eq.mp same, (Option.some.inj pair).symm⟩))
  · cases pair

theorem closing?_of_not_bracket (other : isBracket c = false) : closing? c = none := by
  simp only [isBracket, Bool.or_eq_false_iff, beq_eq_false_iff_ne] at other
  simp [closing?, other]

/-- What the scanners need to know about a pair of brackets. -/
theorem closing?_spec {opening closing : Char} (pair : closing? opening = some closing) :
    Text.isBlank opening = false ∧ opening ≠ '\'' ∧ opening ≠ '"' ∧
      Text.isBlank closing = false ∧ closing ≠ '\'' ∧ closing ≠ '"' ∧
      closing? closing = none ∧ isBracket closing = true := by
  rcases closing?_cases pair with ⟨rfl, rfl⟩ | ⟨rfl, rfl⟩ | ⟨rfl, rfl⟩ | ⟨rfl, rfl⟩ <;> decide

end Characters

section Splitting

/-- The last character of a text that is not blank, and `last` if there is none. -/
def lastInk (last : Option Char) (t : Text) : Option Char :=
  t.foldl (fun last c => if Text.isBlank c then last else some c) last

theorem lastInk_cons_of_blank {c : Char} (blank : Text.isBlank c = true) (last : Option Char)
    (t : Text) : lastInk last (c :: t) = lastInk last t := by
  simp [lastInk, blank]

theorem lastInk_cons {c : Char} (ink : Text.isBlank c = false) (last : Option Char) (t : Text) :
    lastInk last (c :: t) = lastInk (some c) t := by
  simp [lastInk, ink]

theorem lastInk_append (last : Option Char) (s t : Text) :
    lastInk last (s ++ t) = lastInk (lastInk last s) t :=
  List.foldl_append

variable {brackets : List Char} {last : Option Char} {c : Char}

theorem splitType_go_on {rest : Text}
    (goesOn : Reading.stopsAt ⟨brackets, none, last⟩ c rest = false) :
    splitType ⟨brackets, none, last⟩ (c :: rest) =
      (c :: (splitType (Reading.advance ⟨brackets, none, last⟩ c) rest).1,
        (splitType (Reading.advance ⟨brackets, none, last⟩ c) rest).2) := by
  simp only [splitType, goesOn, Bool.false_eq_true, ↓reduceIte]

theorem stopsAt_of_ink (ink : Text.isBlank c = false) (rest : Text) :
    Reading.stopsAt ⟨brackets, none, last⟩ c rest = false := by
  simp [Reading.stopsAt, ink]

theorem not_head_of_not_bracket (closers : ∀ b ∈ brackets, isBracket b = true)
    (other : isBracket c = false) : (brackets.head? == some c) = false := by
  rw [beq_eq_false_iff_ne]
  intro first
  have bracket := closers c (List.mem_of_head? first)
  rw [other] at bracket
  cases bracket

theorem advance_ink (closers : ∀ b ∈ brackets, isBracket b = true) (ink : isInk c = true) :
    Reading.advance ⟨brackets, none, last⟩ c = ⟨brackets, none, some c⟩ := by
  obtain ⟨blank, single, double, other⟩ := isInk_excludes ink
  simp [Reading.advance, blank, single, double, closing?_of_not_bracket other,
    not_head_of_not_bracket closers other]

theorem advance_space (closers : ∀ b ∈ brackets, isBracket b = true) :
    Reading.advance ⟨brackets, none, last⟩ ' ' = ⟨brackets, none, last⟩ := by
  have blank : Text.isBlank ' ' = true := by decide
  have none : closing? ' ' = none := by decide
  have other := not_head_of_not_bracket closers (c := ' ') (by decide)
  simp [Reading.advance, blank, none, other]

theorem advance_opening {opening closing : Char} (pair : closing? opening = some closing) :
    Reading.advance ⟨brackets, none, last⟩ opening = ⟨closing :: brackets, none, some opening⟩ := by
  obtain ⟨blank, single, double, -⟩ := closing?_spec pair
  simp [Reading.advance, blank, single, double, pair]

theorem advance_closing {opening closing : Char} (pair : closing? opening = some closing) :
    Reading.advance ⟨closing :: brackets, none, last⟩ closing = ⟨brackets, none, some closing⟩ := by
  obtain ⟨-, -, -, blank, single, double, none, -⟩ := closing?_spec pair
  simp [Reading.advance, blank, single, double, none]

/-- Reading a type passes over `t`, behind which the brackets `after` are to be closed instead of
`before`. -/
def Passes (before after : List Char) (t : Text) : Prop :=
  ∀ (last : Option Char) (rest : Text),
    splitType ⟨before, none, last⟩ (t ++ rest) =
      (t ++ (splitType ⟨after, none, lastInk last t⟩ rest).1,
        (splitType ⟨after, none, lastInk last t⟩ rest).2)

theorem Passes.append {before between after : List Char} {s t : Text}
    (front : Passes before between s) (back : Passes between after t) :
    Passes before after (s ++ t) := by
  intro last rest
  rw [List.append_assoc, front, back, lastInk_append, List.append_assoc]

theorem passes_ink (closers : ∀ b ∈ brackets, isBracket b = true) (ink : isInk c = true) :
    Passes brackets brackets [c] := by
  intro last rest
  have blank := (isInk_excludes ink).1
  rw [List.singleton_append, splitType_go_on (stopsAt_of_ink blank _), advance_ink closers ink,
    lastInk_cons blank]
  rfl

theorem passes_opening {opening closing : Char} (pair : closing? opening = some closing) :
    Passes brackets (closing :: brackets) [opening] := by
  intro last rest
  have blank := (closing?_spec pair).1
  rw [List.singleton_append, splitType_go_on (stopsAt_of_ink blank _), advance_opening pair,
    lastInk_cons blank]
  rfl

theorem passes_closing {opening closing : Char} (pair : closing? opening = some closing) :
    Passes (closing :: brackets) brackets [closing] := by
  intro last rest
  obtain ⟨-, -, -, blank, -⟩ := closing?_spec pair
  rw [List.singleton_append, splitType_go_on (stopsAt_of_ink blank _), advance_closing pair,
    lastInk_cons blank]
  rfl

/-- What is passed over in brackets is passed over with them. -/
theorem Passes.group {opening closing : Char} {inner t : Text}
    (pair : closing? opening = some closing)
    (inside : Passes (closing :: brackets) (closing :: brackets) inner)
    (behind : Passes brackets brackets t) :
    Passes brackets brackets (opening :: (inner ++ closing :: t)) :=
  (passes_opening pair).append (inside.append ((passes_closing pair).append behind))

/-- Reading a type passes over a nested text and has then as many brackets to close as before. -/
theorem passes_nested {inside : Bool} {t : Text} (nested : Nested inside t) :
    ∀ {brackets : List Char}, (∀ b ∈ brackets, isBracket b = true) →
      (inside = true → brackets ≠ []) → Passes brackets brackets t := by
  induction nested with
  | nil =>
      intro brackets closers deep last rest
      rfl
  | ink ink nested ih =>
      intro brackets closers deep
      exact (passes_ink closers ink).append (ih closers deep)
  | colon nested ih =>
      intro brackets closers deep last rest
      -- The colon carries the type across the space behind it.
      have carried : ∀ rest, Reading.stopsAt ⟨brackets, none, some ':'⟩ ' ' rest = false := by
        intro rest
        simp [Reading.stopsAt, continuesAfter]
      have colon : isInk ':' = true := by decide
      rw [List.cons_append, List.cons_append,
        splitType_go_on (stopsAt_of_ink (isInk_excludes colon).1 _), advance_ink closers colon,
        splitType_go_on (carried _), advance_space closers, ih closers deep,
        lastInk_cons (by decide), lastInk_cons_of_blank (by decide)]
      rfl
  | space nested ih =>
      intro brackets closers deep last rest
      have unclosed : brackets.isEmpty = false := by simpa using deep rfl
      have carried : ∀ rest, Reading.stopsAt ⟨brackets, none, last⟩ ' ' rest = false := by
        intro rest
        simp [Reading.stopsAt, unclosed]
      rw [List.cons_append, splitType_go_on (carried _), advance_space closers, ih closers deep,
        lastInk_cons_of_blank (by decide)]
      rfl
  | group pair nested behind ihInner ihBehind =>
      intro brackets closers deep
      obtain ⟨-, -, -, -, -, -, -, bracket⟩ := closing?_spec pair
      exact Passes.group pair (ihInner (List.forall_mem_cons.mpr ⟨bracket, closers⟩) (by simp))
        (ihBehind closers deep)

end Splitting

section Counting

variable {inside : Bool} {t : Text}

/-- Counting brackets, the text leaves the depth as it was. -/
def Level (t : Text) : Prop :=
  ∀ (depth : Nat) (rest : Text), bracketDepth? depth (t ++ rest) = bracketDepth? depth rest

theorem Level.append {s : Text} (front : Level s) (back : Level t) : Level (s ++ t) := by
  intro depth rest
  rw [List.append_assoc, front, back]

theorem level_of_not_bracket {c : Char} (other : isBracket c = false) : Level [c] := by
  intro depth rest
  simp only [isBracket, Bool.or_eq_false_iff] at other
  simp [bracketDepth?, other]

theorem Level.group {opening closing : Char} {inner : Text} (pair : closing? opening = some closing)
    (inside : Level inner) (behind : Level t) : Level (opening :: (inner ++ closing :: t)) := by
  intro depth rest
  rw [List.cons_append, List.append_assoc, List.cons_append]
  rcases closing?_cases pair with ⟨rfl, rfl⟩ | ⟨rfl, rfl⟩ | ⟨rfl, rfl⟩ | ⟨rfl, rfl⟩ <;>
    simp [bracketDepth?, inside _, behind _]

theorem Level.isBalanced (level : Level t) : isBalanced t = true := by
  have depth := level 0 []
  rw [List.append_nil] at depth
  rw [ParamTag.isBalanced, depth]
  rfl

/-- Deeper down, a text changes the depth of brackets in the same way. -/
theorem bracketDepth?_add {t : Text} {start stop : Nat}
    (counted : bracketDepth? start t = some stop) (more : Nat) (rest : Text) :
    bracketDepth? (start + more) (t ++ rest) = bracketDepth? (stop + more) rest := by
  fun_induction bracketDepth? start t with
  | case1 depth =>
      cases counted
      rfl
  | case2 depth c t opens ih =>
      rw [List.cons_append, bracketDepth?.eq_def]
      simp only [opens, ↓reduceIte]
      rw [Nat.add_right_comm]
      exact ih counted
  | case3 => cases counted
  | case4 c t opens closes depth ih =>
      rw [Nat.succ_add, List.cons_append, bracketDepth?.eq_def]
      simp only [opens, closes, ↓reduceIte]
      exact ih counted
  | case5 depth c t opens closes ih =>
      rw [List.cons_append, bracketDepth?.eq_def]
      simp only [opens, closes]
      exact ih counted

theorem level_of_isBalanced {t : Text} (balanced : isBalanced t = true) : Level t := by
  intro depth rest
  have counted := bracketDepth?_add (beq_iff_eq.mp balanced) depth rest
  simpa using counted

theorem level_nested (nested : Nested inside t) : Level t := by
  have colon : Level [':'] := level_of_not_bracket (by decide)
  have space : Level [' '] := level_of_not_bracket (by decide)
  induction nested with
  | nil => exact fun depth rest => rfl
  | ink ink _ ih => exact (level_of_not_bracket (isInk_excludes ink).2.2.2).append ih
  | colon _ ih => exact colon.append (space.append ih)
  | space _ ih => exact space.append ih
  | group pair _ _ ihInner ihBehind => exact ihInner.group pair ihBehind

/-- A nested text closes as many braces as it opens. -/
theorem count_nested (nested : Nested inside t) : t.count '\x7b' = t.count '\x7d' := by
  induction nested with
  | nil => rfl
  | @ink inside c t ink nested ih =>
      have other := (isInk_excludes ink).2.2.2
      have opening : c ≠ '\x7b' := by
        rintro rfl
        exact absurd other (by decide)
      have closing : c ≠ '\x7d' := by
        rintro rfl
        exact absurd other (by decide)
      rw [List.count_cons_of_ne opening, List.count_cons_of_ne closing, ih]
  | colon nested ih => simpa using ih
  | space nested ih => simpa using ih
  | group pair nested behind ihInner ihBehind =>
      rcases closing?_cases pair with ⟨rfl, rfl⟩ | ⟨rfl, rfl⟩ | ⟨rfl, rfl⟩ | ⟨rfl, rfl⟩
      · simp [List.count_append, ihInner, ihBehind]
      · simp [List.count_append, ihInner, ihBehind]
        omega
      · simp [List.count_append, ihInner, ihBehind]
      · simp [List.count_append, ihInner, ihBehind]

/-- A nested text stands on one line. -/
theorem isLineBreak_of_nested (nested : Nested inside t) :
    ∀ c ∈ t, Text.isLineBreak c = false := by
  have space : Text.isLineBreak ' ' = false := by decide
  have colon : Text.isLineBreak ':' = false := by decide
  induction nested with
  | nil => simp
  | ink ink nested ih =>
      exact List.forall_mem_cons.mpr ⟨Text.not_isLineBreak (isInk_excludes ink).1, ih⟩
  | colon nested ih =>
      exact List.forall_mem_cons.mpr ⟨colon, List.forall_mem_cons.mpr ⟨space, ih⟩⟩
  | space nested ih => exact List.forall_mem_cons.mpr ⟨space, ih⟩
  | group pair nested behind ihInner ihBehind =>
      obtain ⟨opening, -, -, closing, -⟩ := closing?_spec pair
      rw [List.forall_mem_cons, List.forall_mem_append, List.forall_mem_cons]
      exact ⟨Text.not_isLineBreak opening, ihInner, Text.not_isLineBreak closing, ihBehind⟩

end Counting

end PhpHooks.ParamTag
