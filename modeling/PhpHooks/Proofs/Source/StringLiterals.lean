import PhpHooks.Proofs.Text.Utf8
import PhpHooks.Source.Call
import PhpHooks.Source.Evident

set_option autoImplicit false

/-!
The two ways to quote a string. In either, a character may stand for itself or behind a backslash,
by a table of its own; whichever way a string is written, its value, its type and the hook that it
names are the same.
-/
namespace PhpHooks

theorem Node.isA_eq_false {node : Node} {name other : String} (known : node.isA name = true)
    (differ : name ≠ other) : node.isA other = false := by
  have type : node.type = name.toList := eq_of_beq known
  rw [Node.isA, type]
  apply beq_eq_false_iff_ne.2
  intro same
  exact differ (String.toList_inj.1 same)

namespace Source

/-- What may follow a backslash, and the character that it then stands for. -/
abbrev Escapes := List (Char × Char)

def singleEscapes : Escapes := [('\\', '\\'), ('\'', '\'')]

def doubleEscapes : Escapes :=
  [('n', '\n'), ('t', '\t'), ('r', '\r'), ('v', '\x0b'), ('e', '\x1b'), ('f', '\x0c'),
    ('\\', '\\'), ('"', '"'), ('$', '$')]

/-- `t` spells `s`: each character is escaped or bare, and bare only if it does not have itself
as its escape. -/
inductive Spelled (escapes : Escapes) : Text → Text → Prop
  | nil : Spelled escapes [] []
  | bare {c : Char} {s t : Text} (free : (c, c) ∉ escapes) (rest : Spelled escapes s t) :
      Spelled escapes (c :: s) (c :: t)
  | escaped {letter c : Char} {s t : Text} (meaning : (letter, c) ∈ escapes)
      (rest : Spelled escapes s t) : Spelled escapes (c :: s) ('\\' :: letter :: t)

/-- What undoes single steps undoes a spelling. -/
theorem Spelled.undone {escapes : Escapes} {undo : Text → Text} (nil : undo [] = [])
    (bare : ∀ c t, (c, c) ∉ escapes → undo (c :: t) = c :: undo t)
    (escaped : ∀ letter c t, (letter, c) ∈ escapes → undo ('\\' :: letter :: t) = c :: undo t)
    {s t : Text} (spelled : Spelled escapes s t) : undo t = s := by
  induction spelled with
  | nil => exact nil
  | bare free _ ih => rw [bare _ _ free, ih]
  | escaped meaning _ ih => rw [escaped _ _ _ meaning, ih]

theorem unescapeSingle_bare {c : Char} (t : Text) (plain : c ≠ '\\') :
    unescapeSingle (c :: t) = c :: unescapeSingle t := by
  rw [unescapeSingle]
  intro _ _ slash
  exact absurd slash plain

theorem unescapeDouble_bare {c : Char} (t : Text) (plain : c ≠ '\\') :
    unescapeDouble (c :: t) = c :: unescapeDouble t := by
  rw [unescapeDouble]
  intro _ _ slash
  exact absurd slash plain

theorem unescapeSingle_spelled {s t : Text} (spelled : Spelled singleEscapes s t) :
    unescapeSingle t = s := by
  apply spelled.undone
  case nil => rfl
  case bare =>
    -- a backslash could take the next character with it, but the table keeps it from being bare
    intro c t free
    apply unescapeSingle_bare
    rintro rfl
    exact free (by decide)
  case escaped =>
    intro letter c t meaning
    simp [singleEscapes] at meaning
    rcases meaning with ⟨rfl, rfl⟩ | ⟨rfl, rfl⟩ <;> rfl

theorem escapeMeaning_eq {letter c : Char} (meaning : (letter, c) ∈ doubleEscapes) :
    letter ≠ '\n' ∧ escapeMeaning letter = [c] := by
  have each : ∀ escape ∈ doubleEscapes,
      escape.1 ≠ '\n' ∧ escapeMeaning escape.1 = [escape.2] := by decide
  exact each _ meaning

theorem unescapeDouble_letter {letter c : Char} (t : Text) (meaning : (letter, c) ∈ doubleEscapes) :
    unescapeDouble ('\\' :: letter :: t) = c :: unescapeDouble t := by
  have ⟨other, read⟩ := escapeMeaning_eq meaning
  simp [unescapeDouble, other, read]

theorem unescapeDouble_spelled {s t : Text} (spelled : Spelled doubleEscapes s t) :
    unescapeDouble t = s := by
  apply spelled.undone
  case nil => rfl
  case bare =>
    intro c t free
    apply unescapeDouble_bare
    rintro rfl
    exact free (by decide)
  case escaped =>
    intro letter c t meaning
    exact unescapeDouble_letter t meaning

/-- What may stand in front of the first quote. -/
def binaryMarks : List Text := [[], ['b'], ['B']]

theorem between?_quoted {front : Text} {mark : Char} (inside : Text) (marked : front ∈ binaryMarks)
    (other : mark ≠ 'b' ∧ mark ≠ 'B') :
    between? mark (front ++ mark :: (inside ++ [mark])) = some inside := by
  simp [binaryMarks] at marked
  rcases marked with rfl | rfl | rfl <;> simp [between?, other]

section Nodes

variable {source : Source} {node : Node} {s : Text}

theorem textOf_of_slice {t : Text} (bytes : source.slice node = Utf8.encode t) :
    source.textOf node = t := by
  rw [textOf, bytes, Utf8.decodeLenient_encode]

/-- The bytes of the node are `s` between quotes, behind an optional mark. -/
def Quotes (escapes : Escapes) (quote : Char) (source : Source) (node : Node) (s : Text) : Prop :=
  ∃ front ∈ binaryMarks, ∃ t, Spelled escapes s t ∧
    source.slice node = Utf8.encode (front ++ quote :: (t ++ [quote]))

theorem Quotes.between?_eq {escapes : Escapes} {quote : Char}
    (quotes : Quotes escapes quote source node s) (other : quote ≠ 'b' ∧ quote ≠ 'B') :
    ∃ t, Spelled escapes s t ∧ between? quote (source.textOf node) = some t := by
  obtain ⟨front, marked, t, spelled, bytes⟩ := quotes
  refine ⟨t, spelled, ?_⟩
  rw [textOf_of_slice bytes]
  exact between?_quoted t marked other

structure SingleQuoted (source : Source) (node : Node) (s : Text) : Prop where
  type : node.isA "string" = true
  quotes : Quotes singleEscapes '\'' source node s

structure DoubleQuoted (source : Source) (node : Node) (s : Text) : Prop where
  type : node.isA "encapsed_string" = true
  parts : ∀ child ∈ node.namedChildren, child.isOneOf stringParts = true
  quotes : Quotes doubleEscapes '"' source node s

theorem SingleQuoted.stringValue?_eq (quoted : SingleQuoted source node s) :
    source.stringValue? node = some s := by
  obtain ⟨t, spelled, inside⟩ := quoted.quotes.between?_eq (by decide)
  rw [stringValue?, if_pos quoted.type, inside, Option.map_some, unescapeSingle_spelled spelled]

theorem stringValue?_of_between? {t : Text} (type : node.isA "encapsed_string" = true)
    (parts : ∀ child ∈ node.namedChildren, child.isOneOf stringParts = true)
    (inside : between? '"' (source.textOf node) = some t) :
    source.stringValue? node = some (unescapeDouble t) := by
  have single : ¬node.isA "string" = true := by
    simp [Node.isA_eq_false type]
  have whole : ¬(node.namedChildren.any fun child => !child.isOneOf stringParts) = true := by
    simpa using parts
  rw [stringValue?, if_neg single, if_pos type, if_neg whole, inside, Option.map_some]

theorem DoubleQuoted.stringValue?_eq (quoted : DoubleQuoted source node s) :
    source.stringValue? node = some s := by
  obtain ⟨t, spelled, inside⟩ := quoted.quotes.between?_eq (by decide)
  rw [stringValue?_of_between? quoted.type quoted.parts inside, unescapeDouble_spelled spelled]

/-- Only quoted strings have a string value. -/
theorem isA_of_stringValue? (value : source.stringValue? node = some s) :
    node.isA "string" = true ∨ node.isA "encapsed_string" = true := by
  cases single : node.isA "string" with
  | true => exact .inl rfl
  | false =>
    cases double : node.isA "encapsed_string" with
    | true => exact .inr rfl
    | false => simp [stringValue?, single, double] at value

theorem isA_false_of_stringValue? {name : String} (value : source.stringValue? node = some s)
    (other : "string" ≠ name ∧ "encapsed_string" ≠ name) : node.isA name = false := by
  rcases isA_of_stringValue? value with single | double
  · exact Node.isA_eq_false single other.1
  · exact Node.isA_eq_false double other.2

theorem evidentType?_of_stringValue? (value : source.stringValue? node = some s) :
    source.evidentType? node = some [.literal (.string s)] := by
  have bare : node.isA "parenthesized_expression" = false :=
    isA_false_of_stringValue? value (by decide)
  have quoted : node.isOneOf ["string", "encapsed_string"] = true := by
    simpa [Node.isOneOf] using isA_of_stringValue? value
  have plain : source.plainType? node = some [.literal (.string s)] := by
    rw [plainType?, if_pos quoted, value]
  cases node with
  | mk type start stop named field children =>
    rw [evidentType?, if_neg (by simpa [Node.isA] using bare)]
    exact plain

def FirstArgument (call node : Node) : Prop :=
  ∃ list argument, call.child? "arguments" = some list ∧ list.parts.head? = some argument ∧
    argument.isA "argument" = true ∧ argumentValue? argument = some node

theorem hook?_of_stringValue? {call : Node} (value : source.stringValue? node = some s)
    (first : FirstArgument call node) : (source.callOf call).hook? = some s := by
  obtain ⟨list, argument, listed, head, isArgument, is⟩ := first
  have single : node.isA "variadic_unpacking" = false :=
    isA_false_of_stringValue? value (by decide)
  have string : (source.argumentOf argument).string = some s := by
    simp [argumentOf, isArgument, is, single, value]
  simp [Call.hook?, callOf, listed, head, string]

end Nodes

/-- Either way of quoting a string gives its value, its type and its hook. -/
theorem quotes_agree {s : Text} {source₁ source₂ : Source} {node₁ node₂ : Node}
    (single : SingleQuoted source₁ node₁ s) (double : DoubleQuoted source₂ node₂ s) :
    source₁.stringValue? node₁ = some s ∧ source₂.stringValue? node₂ = some s ∧
    source₁.evidentType? node₁ = some [.literal (.string s)] ∧
    source₂.evidentType? node₂ = some [.literal (.string s)] ∧
    ∀ call₁ call₂, FirstArgument call₁ node₁ → FirstArgument call₂ node₂ →
      (source₁.callOf call₁).hook? = some s ∧ (source₂.callOf call₂).hook? = some s := by
  have value₁ := single.stringValue?_eq
  have value₂ := double.stringValue?_eq
  refine ⟨value₁, value₂, evidentType?_of_stringValue? value₁, evidentType?_of_stringValue? value₂,
    ?_⟩
  intro call₁ call₂ first₁ first₂
  exact ⟨hook?_of_stringValue? value₁ first₁, hook?_of_stringValue? value₂ first₂⟩

/-- A call of `f` with the literal between its parentheses. -/
def literalCall (quoted : Text) (literal : Node) : Source :=
  let argument : Node := ⟨"argument".toList, literal.start, literal.stop, true, none, [literal]⟩
  let arguments : Node :=
    ⟨"arguments".toList, 1, literal.stop + 1, true, some "arguments".toList, [argument]⟩
  let name : Node := ⟨"name".toList, 0, 1, true, some "function".toList, []⟩
  ⟨"a.php".toList, Utf8.encode ("f(".toList ++ quoted ++ [')']),
    ⟨"function_call_expression".toList, 0, literal.stop + 1, true, none, [name, arguments]⟩⟩

/-- A name with a backslash before a line feed and at its end, both quotes, a dollar sign, a tab
and a letter of two bytes. -/
def awkwardName : Text := ['a', '\\', '\n', '\'', '"', '$', 'é', '\t', '\\']

def singleLiteral : Node := ⟨"string".toList, 2, 18, true, none, []⟩

def doubleLiteral : Node :=
  ⟨"encapsed_string".toList, 2, 20, true, none,
    [⟨['"'], 3, 4, false, none, []⟩, ⟨"string_content".toList, 4, 5, true, none, []⟩,
      ⟨"escape_sequence".toList, 5, 7, true, none, []⟩]⟩

def singleCall : Source :=
  literalCall "B'a\\\\\n\\'\"$é\t\\\\'".toList singleLiteral

def doubleCall : Source :=
  literalCall "b\"a\\\\\n'\\\"\\$é\\t\\\\\"".toList doubleLiteral

theorem singleQuoted_awkwardName : SingleQuoted singleCall singleLiteral awkwardName where
  type := by decide
  quotes := by
    refine ⟨['B'], by decide, "a\\\\\n\\'\"$é\t\\\\".toList, ?_, by decide⟩
    exact .bare (by decide) (.escaped (by decide) (.bare (by decide) (.escaped (by decide)
      (.bare (by decide) (.bare (by decide) (.bare (by decide) (.bare (by decide)
        (.escaped (by decide) .nil))))))))

theorem doubleQuoted_awkwardName : DoubleQuoted doubleCall doubleLiteral awkwardName where
  type := by decide
  parts := by decide
  quotes := by
    refine ⟨['b'], by decide, "a\\\\\n'\\\"\\$é\\t\\\\".toList, ?_, by decide⟩
    exact .bare (by decide) (.escaped (by decide) (.bare (by decide) (.bare (by decide)
      (.escaped (by decide) (.escaped (by decide) (.bare (by decide) (.escaped (by decide)
        (.escaped (by decide) .nil))))))))

/-- Both calls name the hook, one behind `B`, the other behind `b` with its tab escaped. -/
theorem quotes_agree_awkwardName :
    singleCall.stringValue? singleLiteral = some awkwardName ∧
    doubleCall.stringValue? doubleLiteral = some awkwardName ∧
    singleCall.evidentType? singleLiteral = some [.literal (.string awkwardName)] ∧
    doubleCall.evidentType? doubleLiteral = some [.literal (.string awkwardName)] ∧
    (singleCall.callOf singleCall.root).hook? = some awkwardName ∧
    (doubleCall.callOf doubleCall.root).hook? = some awkwardName := by
  obtain ⟨value₁, value₂, type₁, type₂, hooks⟩ :=
    quotes_agree singleQuoted_awkwardName doubleQuoted_awkwardName
  have first₁ : FirstArgument singleCall.root singleLiteral :=
    ⟨_, _, rfl, rfl, by decide, rfl⟩
  have first₂ : FirstArgument doubleCall.root doubleLiteral :=
    ⟨_, _, rfl, rfl, by decide, rfl⟩
  exact ⟨value₁, value₂, type₁, type₂, hooks _ _ first₁ first₂⟩

end Source
end PhpHooks
