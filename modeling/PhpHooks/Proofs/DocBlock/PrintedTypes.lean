import PhpHooks.Proofs.DocBlock.ParamLines
import PhpHooks.Proofs.TypeExpr.Characters
import PhpHooks.Proofs.TypeExpr.RoundTrip

set_option autoImplicit false

/-!
The printed form of a type can stand in a parameter line, if no string and no float is in it and it
does not begin with the variable `$this`.
-/
namespace PhpHooks

open ParamTag (Nested isInk isBracket closing?)

/-- Texts that printed types take: nested, with a first and a last character that are not mistaken
for anything around them, apart from the dollar sign of `$this`. -/
structure Written (t : Text) : Prop where
  nested : Nested false t
  begins : ∃ c ∈ t.head?, Text.isBlank c = false ∧ c ≠ '&' ∧ c ≠ '.' ∧
    (c = '$' → "$this".toList <+: t)
  ends : ∃ c ∈ t.getLast?, Text.isBlank c = false ∧ c ≠ '|' ∧ c ≠ ':' ∧ c ≠ ','

theorem isInk_of_isTokenChar {c : Char} (token : Lexeme.isTokenChar c = true) : isInk c = true := by
  obtain ⟨blank, mark, single, double⟩ := Lexeme.isTokenChar_excludes token
  have bracket : isBracket c = false := by
    simp only [Lexeme.isMark, Bool.or_eq_false_iff] at mark
    simp [isBracket, mark]
  simp [isInk, blank, single, double, bracket]

theorem nested_of_isTokenChar {inside : Bool} {t : Text}
    (chars : ∀ c ∈ t, Lexeme.isTokenChar c = true) : Nested inside t :=
  .ofInk fun c inside => isInk_of_isTokenChar (chars c inside)

theorem isDigit_or_minus_of_mem_ofInt {n : Int} {c : Char} (inside : c ∈ Text.ofInt n) :
    Text.isDigit c = true ∨ c = '-' := by
  rw [Text.ofInt] at inside
  split at inside
  · exact (List.mem_cons.mp inside).symm.imp_left Numeral.isDigit_of_mem_ofNat
  · exact Or.inl (Numeral.isDigit_of_mem_ofNat inside)

namespace Written

variable {s t : Text}

/-- A written text can stand as a type if it does not begin with the variable `$this`. -/
theorem typeText (written : Written t) (noThis : Text.startsWith t "$this".toList = false) :
    ParamTag.TypeText t := by
  obtain ⟨nested, ⟨c, first, blank, reference, point, this⟩, ends⟩ := written
  refine ⟨nested, ⟨c, first, blank, ?_, reference, point⟩, ends⟩
  intro dollar
  rw [Text.startsWith, List.isPrefixOf_iff_prefix.mpr (this dollar)] at noThis
  cases noThis

theorem ne_nil (written : Written t) : t ≠ [] := by
  rintro rfl
  obtain ⟨c, first, -⟩ := written.begins
  cases first

/-- What follows a text does not change how it begins. -/
theorem begins_append (written : Written s) (t : Text) :
    ∃ c ∈ (s ++ t).head?, Text.isBlank c = false ∧ c ≠ '&' ∧ c ≠ '.' ∧
      (c = '$' → "$this".toList <+: s ++ t) := by
  obtain ⟨c, first, blank, reference, point, this⟩ := written.begins
  refine ⟨c, ?_, blank, reference, point, ?_⟩
  · rw [Option.mem_def] at first ⊢
    rw [List.head?_append, first]
    rfl
  · exact fun dollar => (this dollar).trans (List.prefix_append s t)

theorem append {between : Text} (front : Written s) (nested : Nested false between)
    (back : Written t) : Written (s ++ between ++ t) := by
  refine ⟨(front.nested.append nested).append back.nested, ?_, ?_⟩
  · rw [List.append_assoc]
    exact front.begins_append _
  · obtain ⟨c, last, dark⟩ := back.ends
    rw [Option.mem_def] at last
    exact ⟨c, by simp [last], dark⟩

/-- A text with something in brackets behind it. -/
theorem enclosing {opening closing : Char} (written : Written s)
    (pair : closing? opening = some closing) (nested : Nested true t) :
    Written (s ++ opening :: t ++ [closing]) := by
  have closes : Text.isBlank closing = false ∧ closing ≠ '|' ∧ closing ≠ ':' ∧ closing ≠ ',' := by
    rcases ParamTag.closing?_cases pair with ⟨-, rfl⟩ | ⟨-, rfl⟩ | ⟨-, rfl⟩ | ⟨-, rfl⟩ <;> decide
  refine ⟨?_, ?_, closing, List.getLast?_concat, closes⟩
  · rw [List.append_assoc]
    exact written.nested.append (nested.enclosed pair)
  · rw [List.append_assoc]
    exact written.begins_append _

/-- Names, numbers and truth values. -/
theorem ofToken (chars : ∀ c ∈ t, Lexeme.isTokenChar c = true)
    (begins : ∃ c ∈ t.head?, c ≠ '.' ∧ (c = '$' → "$this".toList <+: t)) : Written t := by
  have apart : ∀ c ∈ t, Text.isBlank c = false ∧ c ≠ '&' ∧ c ≠ '|' ∧ c ≠ ':' ∧ c ≠ ',' := by
    intro c inside
    obtain ⟨blank, mark, -⟩ := Lexeme.isTokenChar_excludes (chars c inside)
    refine ⟨blank, ?_⟩
    simp only [Lexeme.isMark, Bool.or_eq_false_iff, beq_eq_false_iff_ne] at mark
    simp [mark]
  obtain ⟨c, first, point, this⟩ := begins
  obtain ⟨blank, reference, -⟩ := apart c (List.mem_of_head? first)
  have filled : t ≠ [] := by
    rintro rfl
    cases first
  obtain ⟨darkEnd, -, bar, colon, comma⟩ := apart _ (List.getLast_mem filled)
  exact ⟨nested_of_isTokenChar chars, ⟨c, first, blank, reference, point, this⟩,
    ⟨_, List.getLast?_eq_some_getLast filled, darkEnd, bar, colon, comma⟩⟩

theorem ofName {name : Text} (whole : Lexeme.Whole ⟨.name, name⟩) : Written name := by
  apply ofToken whole.name_chars
  rcases whole.name_head with rfl | ⟨c, first, starts⟩
  · exact ⟨'$', rfl, by decide, fun _ => List.prefix_rfl⟩
  · refine ⟨c, first, ?_, ?_⟩
    · rintro rfl
      exact absurd starts (by decide)
    · rintro rfl
      exact absurd starts (by decide)

theorem ofInt (n : Int) : Written (Text.ofInt n) := by
  have filled : Text.ofInt n ≠ [] := by
    rw [Text.ofInt]
    split
    · simp
    · exact Numeral.ofNat_ne_nil _
  obtain ⟨c, tail, begins⟩ := List.exists_cons_of_ne_nil filled
  have first := isDigit_or_minus_of_mem_ofInt (begins ▸ List.mem_cons_self : c ∈ Text.ofInt n)
  apply ofToken
  · intro c inside
    rcases isDigit_or_minus_of_mem_ofInt inside with digit | rfl
    · exact Lexeme.isTokenChar_of_isDigit digit
    · decide
  · refine ⟨c, by rw [begins]; rfl, ?_, ?_⟩
    · rintro rfl
      exact absurd first (by decide)
    · rintro rfl
      exact absurd first (by decide)

theorem typeText_ofInt (n : Int) : ParamTag.TypeText (Text.ofInt n) := by
  apply (ofInt n).typeText
  rw [Text.startsWith, Bool.eq_false_iff]
  intro begins
  have dollar : '$' ∈ Text.ofInt n :=
    (List.isPrefixOf_iff_prefix.mp begins).subset List.mem_cons_self
  exact absurd (isDigit_or_minus_of_mem_ofInt dollar) (by decide)

/-- Written texts with bars between them. -/
theorem joined {parts : List Text} (filled : parts ≠ []) (each : ∀ part ∈ parts, Written part) :
    Written (Text.joined ['|'] parts) := by
  induction parts with
  | nil => exact absurd rfl filled
  | cons part rest ih =>
      rw [List.forall_mem_cons] at each
      cases rest with
      | nil =>
          rw [Text.joined_singleton]
          exact each.1
      | cons next rest =>
          rw [Text.joined_cons]
          exact each.1.append (.ink (by decide) .nil) (ih (by simp) each.2)

end Written

/-- Nested texts with commas between them. -/
theorem nested_joined {parts : List Text} (each : ∀ part ∈ parts, Nested true part) :
    Nested true (Text.joined [',', ' '] parts) := by
  induction parts with
  | nil => exact .nil
  | cons part rest ih =>
      rw [List.forall_mem_cons] at each
      cases rest with
      | nil =>
          rw [Text.joined_singleton]
          exact each.1
      | cons next rest =>
          rw [Text.joined_cons]
          have comma : Nested true [',', ' '] := .ink (by decide) (.space .nil)
          exact (each.1.append comma).append (ih each.2)

theorem nested_plainKey {key : Text} (plain : Lexeme.PlainKey key) : Nested true key := by
  obtain ⟨kind, allowed, scanned⟩ := plain
  obtain ⟨after, found, -⟩ := Lexeme.first?_of_scan scanned
  have chars : ∀ c ∈ key, Lexeme.isTokenChar c = true := by
    rcases allowed with rfl | rfl
    · exact (Lexeme.name?_chars (Lexeme.first?_cases found)).1
    · exact Lexeme.number?_chars (Lexeme.first?_cases found)
  exact nested_of_isTokenChar chars

theorem nested_item {item : ShapeItem} (plain : Lexeme.PlainKey item.key)
    (written : Written (UnionType.text item.type)) : Nested true item.text := by
  have mark : Nested true (if item.optional then ['?'] else []) := by
    cases item.optional with
    | false => exact .nil
    | true => exact .ink (by decide) .nil
  exact ((nested_plainKey plain).append mark).append (.colon written.nested.within)

/-- Apart from its members, the type has a text that the reader of parameter lines passes over. -/
structure AtomicType.Documentable (atom : AtomicType) : Prop extends AtomicType.Printable atom where
  noString : ∀ value, atom ≠ .literal (.string value)

section Texts

open AtomicType (Documentable)

theorem UnionType.written_text {u : UnionType} (proper : u.Proper)
    (documentable : u.Everywhere Documentable)
    (each : ∀ a ∈ u, a.Everywhere Documentable → Written a.text) : Written u.text := by
  rw [UnionType.everywhere_iff] at documentable
  rw [UnionType.text_eq]
  apply Written.joined (by simpa using proper.1)
  exact List.forall_mem_map.mpr fun a member => each a member (documentable a member)

theorem Literal.written_text {value : Literal} (documentable : Documentable (.literal value)) :
    Written value.text := by
  cases value with
  | string value => exact absurd rfl (documentable.noString value)
  | int n => exact Written.ofInt n
  | float x => exact absurd rfl (documentable.noFloat x)
  | bool value =>
      have truth : Lexeme.Whole ⟨.name, "true".toList⟩ := rfl
      have falsity : Lexeme.Whole ⟨.name, "false".toList⟩ := rfl
      cases value with
      | false => exact Written.ofName falsity
      | true => exact Written.ofName truth

theorem AtomicType.written_text (atom : AtomicType) (documentable : atom.Everywhere Documentable) :
    Written atom.text := by
  induction atom using AtomicType.induct with
  | named name us ih =>
      rw [AtomicType.everywhere_named] at documentable
      obtain ⟨whole, -, -, proper⟩ := documentable.1.formed
      rw [AtomicType.text_named]
      split
      · exact Written.ofName whole
      · apply (Written.ofName whole).enclosing (by decide)
        apply nested_joined
        rw [List.forall_mem_map]
        intro u argument
        exact (UnionType.written_text (proper u argument) (documentable.2 u argument)
          (ih u argument)).nested.within
  | literal value =>
      exact Literal.written_text ((AtomicType.everywhere_literal value).mp documentable)
  | shape name items ih =>
      rw [AtomicType.everywhere_shape] at documentable
      obtain ⟨shapeName, proper⟩ := documentable.1.formed
      rw [AtomicType.text_shape]
      apply (Written.ofName (TypeExpr.lower_of_isShapeName shapeName).2).enclosing (by decide)
      apply nested_joined
      rw [List.forall_mem_map]
      intro item entry
      apply nested_item (documentable.1.plainKeys item entry)
      exact UnionType.written_text (proper item entry) (documentable.2 item entry) (ih item entry)
  | callable us result ihParameters ihResult =>
      rw [AtomicType.everywhere_callable] at documentable
      obtain ⟨⟨⟨⟨proper, properResult⟩, -, -⟩, -⟩, inside, insideResult⟩ := documentable
      have name : Written "callable".toList := Written.ofName rfl
      have parameters : Written ("callable".toList ++ '(' ::
          Text.joined [',', ' '] (us.map UnionType.text) ++ [')']) := by
        apply name.enclosing (by decide)
        apply nested_joined
        rw [List.forall_mem_map]
        intro u parameter
        exact (UnionType.written_text (proper u parameter) (inside u parameter)
          (ihParameters u parameter)).nested.within
      rw [AtomicType.text_callable]
      cases result with
      | none => exact parameters
      | some r =>
          have colon : Nested false [':', ' '] := .colon .nil
          have behind := UnionType.written_text (properResult r rfl) (insideResult r rfl)
            (ihResult r rfl)
          have whole := parameters.append colon behind
          simpa [resultText, UnionType.text] using whole

end Texts

end PhpHooks
