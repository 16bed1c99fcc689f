import Mathlib.Data.List.Forall2
import PhpHooks.Proofs.Text.Lines
import PhpHooks.Proofs.TypeExpr.Hoisting

set_option autoImplicit false

/-!
What texts spell: a text is scanned piece by piece, and each piece is a phrase of the grammar. Every
form that a printed type can take has its rule here.
-/
namespace PhpHooks

theorem memberTexts_eq (u : List AtomicType) : memberTexts u = u.map AtomicType.text := by
  induction u with
  | nil => rfl
  | cons a rest ih => rw [memberTexts, ih, List.map_cons]

theorem UnionType.text_eq (u : UnionType) : u.text = Text.joined ['|'] (u.map AtomicType.text) := by
  rw [text, memberTexts_eq]

theorem unionTexts_eq (us : List (List AtomicType)) : unionTexts us = us.map UnionType.text := by
  induction us with
  | nil => rfl
  | cons u rest ih => rw [unionTexts, ih, List.map_cons, UnionType.text]

def ShapeItem.text (item : ShapeItem) : Text :=
  item.key ++ (if item.optional then ['?'] else []) ++ ':' :: ' ' :: UnionType.text item.type

theorem itemTexts_eq (items : List ShapeItem) : itemTexts items = items.map ShapeItem.text := by
  induction items with
  | nil => rfl
  | cons item rest ih =>
      obtain ⟨key, type, optional⟩ := item
      rw [itemTexts, ih, List.map_cons]
      rfl

namespace AtomicType

theorem text_named (name : Text) (arguments : List (List AtomicType)) :
    (named name arguments).text =
      if arguments.isEmpty then name
      else name ++ '<' :: Text.joined [',', ' '] (arguments.map UnionType.text) ++ ['>'] := by
  rw [← unionTexts_eq]
  rfl

theorem text_shape (name : Text) (items : List ShapeItem) :
    (shape name items).text =
      name ++ '\x7b' :: Text.joined [',', ' '] (items.map ShapeItem.text) ++ ['\x7d'] := by
  rw [← itemTexts_eq]
  rfl

theorem text_callable (parameters : List (List AtomicType)) (result : Option (List AtomicType)) :
    (callable parameters result).text =
      "callable(".toList ++ Text.joined [',', ' '] (parameters.map UnionType.text) ++ ')' ::
        resultText result := by
  rw [← unionTexts_eq]
  rfl

end AtomicType

/-- The text is one name or one number. -/
def Lexeme.PlainKey (key : Text) : Prop :=
  ∃ kind, (kind = .name ∨ kind = .number) ∧ scan key = .ok [⟨kind, key⟩]

/-- The text gives these tokens, whatever separated text follows it. -/
def Lexes (t : Text) (tokens : List Lexeme) : Prop :=
  ∀ rest, Lexeme.Separated rest →
    Lexeme.tokens (t ++ rest) = (Lexeme.tokens rest).map (tokens ++ ·)

namespace Lexes

variable {s t : Text} {first second : List Lexeme}

theorem nil : Lexes [] [] := by
  intro rest _
  rw [List.nil_append]
  cases Lexeme.tokens rest <;> rfl

theorem whole {lexeme : Lexeme} (whole : lexeme.Whole) (token : lexeme.isToken = true) :
    Lexes lexeme.text [lexeme] := by
  intro rest separated
  have found := (Lexeme.first?_spec _ whole).2.2 token rest separated
  rw [Lexeme.tokens_of_first? found]
  simp only [token, if_true, List.singleton_append]

theorem append (front : Lexes s first) (back : Lexes t second) (apart : Lexeme.Separated t) :
    Lexes (s ++ t) (first ++ second) := by
  intro rest separated
  have behind : Lexeme.Separated (t ++ rest) := by
    cases t with
    | nil => exact separated
    | cons c t => exact Lexeme.Separated.cons _ (apart c rfl)
  rw [List.append_assoc, front _ behind, back _ separated]
  cases Lexeme.tokens rest with
  | error stray => rfl
  | ok tokens => simp [Except.map]

theorem mark {c : Char} (mark : Lexeme.isMark c = true) (back : Lexes t second) :
    Lexes (c :: t) (.ofMark c :: second) := by
  intro rest separated
  rw [List.cons_append, Lexeme.tokens_cons_mark _ mark, back rest separated]
  cases Lexeme.tokens rest <;> rfl

theorem blank {c : Char} (blank : Text.isBlank c = true) (back : Lexes t second) :
    Lexes (c :: t) second := by
  intro rest separated
  rw [List.cons_append, Lexeme.tokens_cons_blank _ blank, back rest separated]

/-- Two texts with a mark between them. -/
theorem between {c : Char} (front : Lexes s first) (mark : Lexeme.isMark c = true)
    (back : Lexes t second) : Lexes (s ++ c :: t) (first ++ .ofMark c :: second) := by
  refine front.append (Lexes.mark mark back) (Lexeme.Separated.cons t ?_)
  rw [Lexeme.separates, mark, Bool.or_true]

/-- Two texts with a mark and a space between them. -/
theorem spaced {c : Char} (front : Lexes s first) (mark : Lexeme.isMark c = true)
    (back : Lexes t second) : Lexes (s ++ c :: ' ' :: t) (first ++ .ofMark c :: second) :=
  front.between mark (Lexes.blank (by decide) back)

theorem closed {c : Char} (front : Lexes s first) (mark : Lexeme.isMark c = true) :
    Lexes (s ++ [c]) (first ++ [.ofMark c]) :=
  front.between mark Lexes.nil

theorem tokens_eq (lexes : Lexes t first) : Lexeme.tokens t = .ok first := by
  have alone := lexes [] Lexeme.Separated.nil
  rw [List.append_nil] at alone
  rw [alone]
  simp [Lexeme.tokens_eq_scan, Lexeme.scan, Lexeme.scanWithin_nil, Except.map]

end Lexes

namespace TypeExpr

/-- The text gives tokens that the grammar derives with this value. -/
def Spells (phrase : Phrase) (t : Text) (value : phrase.Value) : Prop :=
  ∃ tokens, Lexes t tokens ∧ Derives true phrase tokens value

/-- Members with bars between them, each of which stands for one atomic type. -/
inductive Members : List Lexeme → List AtomicType → Prop
  | one {tokens : List Lexeme} {a : AtomicType} :
      Derives true .member tokens [a] → Members tokens [a]
  | more {first others : List Lexeme} {a : AtomicType} {rest : List AtomicType} :
      Derives true .member first [a] → Members others rest →
      Members (first ++ .ofMark '|' :: others) (a :: rest)

namespace Members

theorem append {first second : List Lexeme} {u v : List AtomicType} (front : Members first u)
    (back : Members second v) : Members (first ++ .ofMark '|' :: second) (u ++ v) := by
  induction front with
  | one member => exact .more member back
  | more member _ ih =>
      rw [List.append_assoc, List.cons_append]
      exact .more member ih

/-- The members behind a bar. -/
theorem alternatives {tokens : List Lexeme} {u : List AtomicType} (members : Members tokens u) :
    Derives true .alternatives (.ofMark '|' :: tokens) u := by
  induction members with
  | one member =>
      have derived := Derives.alternativesMore member .alternativesNone
      rwa [List.append_nil, List.append_nil] at derived
  | more member _ ih => exact .alternativesMore member ih

theorem union {tokens : List Lexeme} {u : List AtomicType} (members : Members tokens u) :
    Derives true .union tokens (UnionType.distinct u) := by
  cases members with
  | one member =>
      have derived := Derives.union member .alternativesNone
      rwa [List.append_nil, List.append_nil] at derived
  | more member others => exact .union member others.alternatives

end Members

section Literals

theorem stringTail?_escape (value rest : Text) :
    Lexeme.stringTail? '\'' (value.flatMap Literal.escape ++ '\'' :: rest) =
      some (value.flatMap Literal.escape ++ ['\''], rest) := by
  induction value with
  | nil => rw [List.flatMap_nil, List.nil_append, Lexeme.stringTail?_cons _ (by decide)]; rfl
  | cons c value ih =>
      rw [List.flatMap_cons, List.append_assoc, List.append_assoc, Literal.escape]
      by_cases backslash : c = '\\'
      · simp [backslash, Lexeme.stringTail?, ih]
      by_cases quote : c = '\''
      · simp [quote, Lexeme.stringTail?, ih]
      · simp [backslash, quote, Lexeme.stringTail?_cons, ih]

theorem unescape_cons {c : Char} (rest : Text) (ordinary : c ≠ '\\') :
    unescape (c :: rest) = c :: unescape rest := by
  rw [unescape]
  exact fun _ _ same _ => ordinary same

theorem unescape_escape (value : Text) : unescape (value.flatMap Literal.escape) = value := by
  induction value with
  | nil => rfl
  | cons c value ih =>
      rw [List.flatMap_cons, Literal.escape]
      by_cases backslash : c = '\\'
      · simp [backslash, unescape, ih]
      by_cases quote : c = '\''
      · simp [quote, unescape, ih]
      · simp [backslash, quote, unescape_cons, ih]

/-- A literal string is read back from between its quotation marks. -/
theorem spells_string (value : Text) :
    Spells (.primary true) (Literal.text (.string value)) [.literal (.string value)] := by
  have whole : Lexeme.Whole ⟨.string, Literal.text (.string value)⟩ := by
    apply Lexeme.first?_of_string
    simp [Lexeme.string?, stringTail?_escape, Literal.text]
  have read : stringValue (Literal.text (.string value)) = value := by
    simp [stringValue, Literal.text, unescape_escape]
  have derived : Derives true (.primary true) [⟨.string, Literal.text (.string value)⟩]
      [.literal (.string (stringValue (Literal.text (.string value))))] := .string _
  rw [read] at derived
  exact ⟨_, Lexes.whole whole rfl, derived⟩

theorem numberSign_ofInt (n : Int) : Lexeme.numberSign (Text.ofInt n) =
    (if n < 0 then ['-'] else [], Text.ofNat n.natAbs) := by
  by_cases negative : n < 0
  · simp [Text.ofInt, negative, Lexeme.numberSign]
  · obtain ⟨c, tail, begins, minus, -⟩ := Numeral.head_ofNat n.natAbs
    simp [Text.ofInt, negative, begins, Lexeme.numberSign, minus]

theorem number?_ofInt (n : Int) : Lexeme.number? (Text.ofInt n) = some (Text.ofInt n, []) := by
  have digits : Lexeme.mantissa? (Text.ofNat n.natAbs ++ []) = some (Text.ofNat n.natAbs, []) :=
    Lexeme.mantissa?_of_digits (fun c => Numeral.isDigit_of_mem_ofNat)
      (Numeral.ofNat_ne_nil n.natAbs) (by simp [Lexeme.Stops])
  rw [List.append_nil] at digits
  rw [Lexeme.number?_eq, numberSign_ofInt, digits]
  by_cases negative : n < 0
  · simp [negative, Lexeme.exponent, Text.ofInt]
  · simp [negative, Lexeme.exponent, Text.ofInt]

theorem numberValue_ofInt {n : Int} (short : n.natAbs < 10 ^ Numeral.maxDigits) :
    numberValue (Text.ofInt n) = .ok (.int n) := by
  have fits : ¬ Numeral.maxDigits < (Text.ofNat n.natAbs).length :=
    Nat.not_lt.mpr (Numeral.length_ofNat_le (by decide) short)
  have value : Numeral.signed (decide (n < 0)) n.natAbs = n := by
    by_cases negative : n < 0
    · rw [Numeral.signed, if_pos (decide_eq_true negative)]
      omega
    · rw [Numeral.signed, if_neg (by simpa using negative)]
      omega
  simp only [numberValue, Numeral.splitSign_ofInt, Numeral.natural?_ofNat, if_neg fits, value]

theorem whole_ofInt (n : Int) : Lexeme.Whole ⟨.number, Text.ofInt n⟩ := by
  have scanned := number?_ofInt n
  rw [Lexeme.Whole]
  cases text : Text.ofInt n with
  | nil => rw [text] at scanned; cases scanned
  | cons c tail =>
      rw [text] at scanned
      exact Lexeme.first?_of_number scanned

/-- A literal integer that is not too long is read back from its numeral. -/
theorem spells_int {n : Int} (short : n.natAbs < 10 ^ Numeral.maxDigits) :
    Spells (.primary true) (Text.ofInt n) [.literal (.int n)] :=
  ⟨_, Lexes.whole (whole_ofInt n) rfl, .number (numberValue_ofInt short)⟩

end Literals

/-- The text gives tokens that are members with bars between them. -/
def SpellsMembers (t : Text) (u : List AtomicType) : Prop :=
  ∃ tokens, Lexes t tokens ∧ Members tokens u

section Forms

variable {t : Text}

theorem Spells.members {closed : Bool} {a : AtomicType} (spelled : Spells (.primary closed) t [a]) :
    SpellsMembers t [a] := by
  obtain ⟨tokens, lexes, derived⟩ := spelled
  have member := derived.member 0 fun _ _ => rfl
  rw [brackets, List.append_nil] at member
  exact ⟨tokens, lexes, .one member⟩

theorem SpellsMembers.union {u : List AtomicType} (spelled : SpellsMembers t u) :
    Spells .union t (UnionType.distinct u) := by
  obtain ⟨tokens, lexes, members⟩ := spelled
  exact ⟨tokens, lexes, members.union⟩

/-- The members of a union are spelled with bars between them. -/
theorem spellsMembers_joined {expand : AtomicType → List AtomicType} {u : List AtomicType}
    (filled : u ≠ []) (each : ∀ a ∈ u, SpellsMembers a.text (expand a)) :
    SpellsMembers (Text.joined ['|'] (u.map AtomicType.text)) (u.flatMap expand) := by
  induction u with
  | nil => exact absurd rfl filled
  | cons a rest ih =>
      rw [List.forall_mem_cons] at each
      cases rest with
      | nil =>
          rw [List.flatMap_cons, List.flatMap_nil, List.append_nil, List.map_singleton,
            Text.joined_singleton]
          exact each.1
      | cons b rest =>
          obtain ⟨first, firstLexes, front⟩ := each.1
          obtain ⟨others, othersLexes, back⟩ := ih (by simp) each.2
          refine ⟨_, ?_, front.append back⟩
          rw [List.map_cons, List.map_cons, Text.joined_cons, List.append_assoc,
            List.singleton_append]
          exact firstLexes.between (by decide) othersLexes

/-- Unions are spelled with commas between them. -/
theorem spells_arguments {us : List UnionType} {value : UnionType → UnionType} (filled : us ≠ [])
    (each : ∀ u ∈ us, Spells .union u.text (value u)) :
    Spells .arguments (Text.joined [',', ' '] (us.map UnionType.text)) (us.map value) := by
  induction us with
  | nil => exact absurd rfl filled
  | cons u rest ih =>
      rw [List.forall_mem_cons] at each
      obtain ⟨first, firstLexes, front⟩ := each.1
      cases rest with
      | nil =>
          rw [List.map_singleton, Text.joined_singleton]
          exact ⟨first, firstLexes, .argumentsOne front⟩
      | cons v rest =>
          obtain ⟨others, othersLexes, back⟩ := ih (by simp) each.2
          refine ⟨_, ?_, .argumentsMore front back⟩
          rw [List.map_cons, List.map_cons, Text.joined_cons, List.append_assoc]
          exact firstLexes.spaced (by decide) othersLexes

/-- The parameters of a callable are spelled up to the closing parenthesis. -/
theorem spells_parameters {us : List UnionType} {value : UnionType → UnionType}
    (each : ∀ u ∈ us, Spells .union u.text (value u)) :
    Spells .parameters (Text.joined [',', ' '] (us.map UnionType.text) ++ [')'])
      (us.map value) := by
  cases us with
  | nil => exact ⟨_, Lexes.mark (by decide) Lexes.nil, .parametersNone⟩
  | cons u us =>
      obtain ⟨tokens, lexes, derived⟩ := spells_arguments (by simp) each
      exact ⟨_, lexes.closed (by decide), .parametersSome derived⟩

/-- The key of an item is a token that gives it. -/
theorem token_of_plainKey {key : Text} (plain : Lexeme.PlainKey key) :
    ∃ token : Lexeme, Lexes key [token] ∧ shapeKey token = .ok key := by
  obtain ⟨kind, allowed, scanned⟩ := plain
  obtain ⟨after, found, -⟩ := Lexeme.first?_of_scan scanned
  have nothing : after = [] := by
    have split := (Lexeme.first?_spec key found).1
    exact List.self_eq_append_right.mp split
  rw [nothing] at found
  have whole : Lexeme.Whole ⟨kind, key⟩ := found
  refine ⟨⟨kind, key⟩, Lexes.whole whole ?_, ?_⟩
  · rcases allowed with rfl | rfl <;> rfl
  · rcases allowed with rfl | rfl <;> rfl

theorem lexes_item {key : Text} {token : Lexeme} {tokens : List Lexeme} (optional : Bool)
    (keyLexes : Lexes key [token]) (lexes : Lexes t tokens) :
    Lexes (key ++ (if optional then ['?'] else []) ++ ':' :: ' ' :: t)
      (token :: (separator optional ++ tokens)) := by
  cases optional with
  | false =>
      simp only [Bool.false_eq_true, if_false, List.append_nil]
      exact keyLexes.spaced (by decide) lexes
  | true =>
      simp only [if_true, List.append_assoc, List.singleton_append]
      exact keyLexes.between (by decide) (Lexes.mark (by decide) (Lexes.blank (by decide) lexes))

/-- The text gives the token of an item's key, the marks behind it and the tokens of its type. -/
def SpellsItem (t : Text) (item : ShapeItem) : Prop :=
  ∃ token tokens, Lexes t (token :: (separator item.optional ++ tokens)) ∧
    shapeKey token = .ok item.key ∧ Derives true .union tokens item.type

/-- The items of a shape are spelled with commas between them up to what closes the shape. -/
theorem spells_items {texts : List Text} {items : List ShapeItem} {closing : Text}
    (each : List.Forall₂ SpellsItem texts items) (closes : Lexes closing [.ofMark '\x7d'])
    (apart : Lexeme.Separated closing) :
    Spells .items (Text.joined [',', ' '] texts ++ closing) items := by
  induction each with
  | nil => exact ⟨_, closes, .itemsNone⟩
  | @cons t item texts items first others ih =>
      obtain ⟨token, tokens, front, gives, derived⟩ := first
      obtain ⟨key, type, optional⟩ := item
      cases others with
      | nil =>
          rw [Text.joined_singleton]
          refine ⟨_, front.append closes apart, ?_⟩
          rw [List.cons_append, List.append_assoc]
          exact .itemsLast optional gives derived
      | cons =>
          obtain ⟨others, othersLexes, back⟩ := ih
          rw [Text.joined_cons, List.append_assoc, List.append_assoc]
          refine ⟨_, front.spaced (by decide) othersLexes, ?_⟩
          rw [List.cons_append, List.append_assoc]
          exact .itemsMore optional gives derived back

theorem spellsItem_text {item : ShapeItem} {u : UnionType} (plain : Lexeme.PlainKey item.key)
    (spelled : Spells .union (UnionType.text item.type) u) :
    SpellsItem item.text ⟨item.key, u, item.optional⟩ := by
  obtain ⟨token, keyLexes, gives⟩ := token_of_plainKey plain
  obtain ⟨tokens, lexes, derived⟩ := spelled
  exact ⟨token, tokens, lexes_item item.optional keyLexes lexes, gives, derived⟩

theorem lexes_name {name : Text} (whole : Lexeme.Whole ⟨.name, name⟩) :
    Lexes name [⟨.name, name⟩] :=
  Lexes.whole whole rfl

/-- A name with its arguments, if it has any. -/
theorem spells_named {name : Text} {us : List UnionType} {value : UnionType → UnionType}
    (whole : Lexeme.Whole ⟨.name, name⟩) (noTruth : Text.lower name ≠ "true".toList)
    (noFalsity : Text.lower name ≠ "false".toList)
    (each : ∀ u ∈ us, Spells .union u.text (value u)) :
    Spells (.primary true) (AtomicType.named name us).text [.named name (us.map value)] := by
  rw [AtomicType.text_named]
  cases us with
  | nil => exact ⟨_, lexes_name whole, .name (.plain noTruth noFalsity)⟩
  | cons u us =>
      obtain ⟨tokens, lexes, derived⟩ := spells_arguments (by simp) each
      refine ⟨_, ?_, .name (.generic noTruth noFalsity derived)⟩
      rw [if_neg (by simp), List.append_assoc, List.cons_append]
      exact (lexes_name whole).between (by decide) (lexes.closed (by decide))

theorem lower_of_isShapeName {name : Text} (shapeName : isShapeName name = true) :
    Text.lower name = name ∧ Lexeme.Whole ⟨.name, name⟩ := by
  simp only [isShapeName, Bool.or_eq_true, beq_iff_eq] at shapeName
  rcases shapeName with ((rfl | rfl) | rfl) | rfl <;> exact ⟨by decide, rfl⟩

theorem spells_braces {name inner : Text} {items : List ShapeItem}
    (shapeName : isShapeName name = true) (spelled : Spells .items inner items) :
    Spells (.primary true) (name ++ '\x7b' :: inner) [.shape name items] := by
  obtain ⟨lowered, whole⟩ := lower_of_isShapeName shapeName
  obtain ⟨tokens, lexes, derived⟩ := spelled
  refine ⟨_, (lexes_name whole).between (by decide) lexes, ?_⟩
  have named : Derives true (.named name true) (.ofMark '\x7b' :: tokens) _ :=
    .shape (by rw [lowered]; exact shapeName) derived
  rw [lowered] at named
  exact .name named

theorem spells_shape {name : Text} {items : List ShapeItem} {value : UnionType → UnionType}
    (shapeName : isShapeName name = true) (plain : ∀ item ∈ items, Lexeme.PlainKey item.key)
    (each : ∀ item ∈ items, Spells .union (UnionType.text item.type) (value item.type)) :
    Spells (.primary true) (AtomicType.shape name items).text
      [.shape name (items.map fun item => ⟨item.key, value item.type, item.optional⟩)] := by
  have spelled : List.Forall₂ SpellsItem (items.map ShapeItem.text)
      (items.map fun item => ⟨item.key, value item.type, item.optional⟩) := by
    rw [List.forall₂_map_left_iff, List.forall₂_map_right_iff, List.forall₂_same]
    exact fun item listed => spellsItem_text (plain item listed) (each item listed)
  rw [AtomicType.text_shape, List.append_assoc, List.cons_append]
  exact spells_braces shapeName (spells_items spelled (Lexes.mark (by decide) Lexes.nil)
    (Lexeme.Separated.cons [] (by decide)))

/-- The tokens of a callable up to the closing parenthesis. -/
theorem lexes_callable {us : List UnionType} {value : UnionType → UnionType}
    (each : ∀ u ∈ us, Spells .union u.text (value u)) :
    ∃ tokens, Derives true .parameters tokens (us.map value) ∧
      Lexes ("callable(".toList ++ Text.joined [',', ' '] (us.map UnionType.text) ++ [')'])
        (⟨.name, "callable".toList⟩ :: .ofMark '(' :: tokens) := by
  obtain ⟨tokens, lexes, derived⟩ := spells_parameters each
  have whole : Lexeme.Whole ⟨.name, "callable".toList⟩ := rfl
  refine ⟨tokens, derived, ?_⟩
  rw [List.append_assoc]
  exact (lexes_name whole).between (by decide) lexes

theorem spells_callable {us : List UnionType} {value : UnionType → UnionType}
    (each : ∀ u ∈ us, Spells .union u.text (value u)) :
    Spells (.primary true) (AtomicType.callable us none).text [.callable (us.map value) none] := by
  obtain ⟨tokens, derived, lexes⟩ := lexes_callable each
  rw [AtomicType.text_callable]
  exact ⟨_, lexes, .name (.callableName (by decide) (.withoutResult derived))⟩

/-- Behind the colon of a callable the first member is its result, and the others stay members. -/
theorem Members.callable {parameters result : List Lexeme} {us : List UnionType}
    {u : List AtomicType} (derived : Derives true .parameters parameters us)
    (members : Members result u) :
    Members (⟨.name, "callable".toList⟩ :: .ofMark '(' :: parameters ++ .ofMark ':' :: result)
      (AtomicType.spread us (some u)) := by
  have returning : ∀ {tokens : List Lexeme} {a : AtomicType}, Derives true .member tokens [a] →
      Derives true .member
        (⟨.name, "callable".toList⟩ :: .ofMark '(' :: parameters ++ .ofMark ':' :: tokens)
        [.callable us (some [a])] := by
    intro tokens a member
    have named : Derives true (.named "callable".toList false) _ _ :=
      .callableName (by decide) (.withResult derived member)
    have whole := (Derives.name named).member 0 fun _ _ => rfl
    rwa [brackets, List.append_nil] at whole
  cases members with
  | one member => exact .one (returning member)
  | more member others =>
      have whole := Members.more (returning member) others
      rwa [List.append_assoc] at whole

end Forms

end TypeExpr
end PhpHooks
