import PhpHooks.Proofs.Number.PlaceValue
import PhpHooks.Proofs.Source.StringLiterals

set_option autoImplicit false

/-!
Numeric escapes in double quotes: a backslash with octal digits, with `x` and hexadecimal digits, or
with `u` and hexadecimal digits in braces. Each stands for bytes. The value of a literal keeps them
as they are spelled, so it is the string that the literal stands for exactly if there are none.
-/
namespace PhpHooks

namespace Utf8

/-- The bytes of a code point, a surrogate or not. -/
def codePointBytes (v : Nat) : Bytes :=
  if v ≤ 0x7f then [UInt8.ofNat v]
  else if v ≤ 0x7ff then [UInt8.ofNat (v / 64 % 32 + 192), UInt8.ofNat (v % 64 + 128)]
  else if v ≤ 0xffff then
    [UInt8.ofNat (v / 4096 % 16 + 224), UInt8.ofNat (v / 64 % 64 + 128),
      UInt8.ofNat (v % 64 + 128)]
  else
    [UInt8.ofNat (v / 262144 % 8 + 240), UInt8.ofNat (v / 4096 % 64 + 128),
      UInt8.ofNat (v / 64 % 64 + 128), UInt8.ofNat (v % 64 + 128)]

theorem codePointBytes_toNat (c : Char) : codePointBytes c.toNat = encode [c] := by
  rw [encode, List.flatMap_singleton]
  rfl

theorem length_codePointBytes (v : Nat) : (codePointBytes v).length ≤ 4 := by
  unfold codePointBytes
  split
  · simp
  · split
    · simp
    · split <;> simp

theorem encode_append (s t : Text) : encode (s ++ t) = encode s ++ encode t := by
  rw [encode, encode, encode, List.flatMap_append]

theorem length_le_encode (t : Text) : t.length ≤ (encode t).length := by
  induction t with
  | nil => exact Nat.le_refl 0
  | cons c t ih =>
      have positive := c.utf8Size_pos
      have sum : (encode (c :: t)).length = c.utf8Size + (encode t).length := by
        rw [encode, List.flatMap_cons, List.length_append, String.length_utf8EncodeChar]
        rfl
      rw [List.length_cons, sum]
      omega

end Utf8

namespace Source

open Numeral (Denotes IsDigit)

/-- The first character of `t`, if there is one, is no digit of the base. -/
def EndsDigits (base : Nat) (t : Text) : Prop :=
  ∀ c ∈ t.head?, ∀ d, ¬ IsDigit base c d

/-- A numeric escape in front of `rest`, and the bytes that it stands for. It takes as many digits
as it can; what does not fit into a byte is cut off. -/
inductive NumericEscape (rest : Text) : Text → Bytes → Prop
  | octal {digits : Text} {n : Nat} (value : Denotes 8 digits n)
      (size : digits.length = 3 ∨ digits.length < 3 ∧ EndsDigits 8 rest) :
      NumericEscape rest ('\\' :: digits) [UInt8.ofNat n]
  | hexadecimal {mark : Char} {digits : Text} {n : Nat} (marked : mark ∈ ['x', 'X'])
      (value : Denotes 16 digits n)
      (size : digits.length = 2 ∨ digits.length < 2 ∧ EndsDigits 16 rest) :
      NumericEscape rest ('\\' :: mark :: digits) [UInt8.ofNat n]
  | unicode {digits : Text} {n : Nat} (value : Denotes 16 digits n) (inRange : n ≤ 0x10ffff) :
      NumericEscape rest ('\\' :: 'u' :: '\x7b' :: (digits ++ ['\x7d'])) (Utf8.codePointBytes n)

/-- A Unicode escape stands for the character with its number. -/
theorem NumericEscape.character {rest digits : Text} {c : Char}
    (value : Denotes 16 digits c.toNat) :
    NumericEscape rest ('\\' :: 'u' :: '\x7b' :: (digits ++ ['\x7d'])) (Utf8.encode [c]) := by
  have valid : c.toNat < 0xd800 ∨ 0xdfff < c.toNat ∧ c.toNat < 0x110000 := c.valid
  rw [← Utf8.codePointBytes_toNat]
  exact .unicode value (by omega)

/-- A backslash in front of `c` and `rest` begins no escape. -/
structure StandsAlone (c : Char) (rest : Text) : Prop where
  letter : ∀ meaning, (c, meaning) ∉ doubleEscapes
  octal : ∀ d, ¬ IsDigit 8 c d
  hexadecimal : c ∈ ['x', 'X'] → EndsDigits 16 rest
  unicode : c = 'u' → rest.head? ≠ some '\x7b'

/-- A part of a string: characters, or a numeric escape with its bytes. -/
inductive Segment where
  | characters (t : Text)
  | numeric (spelling : Text) (bytes : Bytes)

namespace Segment

def isNumeric : Segment → Bool
  | characters _ => false
  | numeric _ _ => true

def bytes : Segment → Bytes
  | characters t => Utf8.encode t
  | numeric _ bytes => bytes

/-- The part with a numeric escape as it is spelled. -/
def kept : Segment → Text
  | characters t => t
  | numeric spelling _ => spelling

end Segment

/-- The parts of what stands between double quotes. -/
inductive Reads : Text → List Segment → Prop
  | nil : Reads [] []
  | bare {c : Char} {t : Text} {segments : List Segment} (plain : c ≠ '\\')
      (rest : Reads t segments) : Reads (c :: t) (.characters [c] :: segments)
  | letter {letter c : Char} {t : Text} {segments : List Segment}
      (meaning : (letter, c) ∈ doubleEscapes) (rest : Reads t segments) :
      Reads ('\\' :: letter :: t) (.characters [c] :: segments)
  | backslash {c : Char} {t : Text} {segments : List Segment} (alone : StandsAlone c t)
      (rest : Reads t segments) : Reads ('\\' :: c :: t) (.characters ['\\', c] :: segments)
  | numeric {spelling t : Text} {bytes : Bytes} {segments : List Segment}
      (escape : NumericEscape t spelling bytes) (rest : Reads t segments) :
      Reads (spelling ++ t) (.numeric spelling bytes :: segments)

theorem escapeMeaning_of_free {c : Char} (free : ∀ meaning, (c, meaning) ∉ doubleEscapes) :
    escapeMeaning c = ['\\', c] := by
  have other : ∀ escape ∈ doubleEscapes, c ≠ escape.1 := by
    intro escape listed same
    rw [same] at free
    exact free escape.2 listed
  simp only [doubleEscapes, List.forall_mem_cons] at other
  simp [escapeMeaning, other]

theorem unescapeDouble_free {c : Char} (t : Text) (free : ∀ meaning, (c, meaning) ∉ doubleEscapes) :
    unescapeDouble ('\\' :: c :: t) = '\\' :: c :: unescapeDouble t := by
  rw [unescapeDouble]
  by_cases feed : c == '\n'
  · rw [if_pos feed]
  · rw [if_neg feed, escapeMeaning_of_free free]
    rfl

theorem unescapeDouble_append {front : Text} (t : Text) (plain : '\\' ∉ front) :
    unescapeDouble (front ++ t) = front ++ unescapeDouble t := by
  induction front with
  | nil => rfl
  | cons c front ih =>
      rw [List.mem_cons, not_or] at plain
      rw [List.cons_append, unescapeDouble_bare _ (fun same => plain.1 same.symm), ih plain.2]
      rfl

section Digits

theorem backslash_not_mem {base : Nat} {t : Text} {digits : List Nat} (small : base ≤ 16)
    (each : List.Forall₂ (IsDigit base) t digits) : '\\' ∉ t := by
  have listed : ∀ d < 16, '\\' ≠ d.digitChar ∧ '\\' ≠ d.digitChar.toUpper := by decide
  have other : ∀ c ∈ t, '\\' ≠ c := by
    apply Numeral.forall_mem_of_digits (P := fun c => '\\' ≠ c) each
    intro d below
    exact listed d (Nat.lt_of_lt_of_le below small)
  intro inside
  exact other _ inside rfl

theorem octal_free {c : Char} {d : Nat} (digit : IsDigit 8 c d) (meaning : Char) :
    (c, meaning) ∉ doubleEscapes := by
  have other : ∀ escape ∈ doubleEscapes, escape.1 ≠ c :=
    digit.of_both (P := fun c => ∀ escape ∈ doubleEscapes, escape.1 ≠ c) (by decide)
  intro listed
  exact other _ listed rfl

end Digits

/-- What all numeric escapes have in common: the character behind the backslash is not in the table,
no other backslash follows, and they are longer than what they stand for. -/
structure NumericShape (spelling : Text) (bytes : Bytes) : Prop where
  split : ∃ c more, spelling = '\\' :: c :: more ∧ (∀ meaning, (c, meaning) ∉ doubleEscapes) ∧
    '\\' ∉ more
  shorter : bytes.length < spelling.length

theorem NumericEscape.shape {rest spelling : Text} {bytes : Bytes}
    (escape : NumericEscape rest spelling bytes) : NumericShape spelling bytes := by
  cases escape with
  | octal value size =>
      obtain ⟨filled, digits, each, _⟩ := value
      cases each with
      | nil => exact absurd rfl filled
      | cons first others =>
          refine ⟨⟨_, _, rfl, octal_free first, backslash_not_mem (by decide) others⟩, ?_⟩
          simp
  | @hexadecimal mark digits n marked value size =>
      obtain ⟨filled, values, each, _⟩ := value
      have free : ∀ escape ∈ doubleEscapes, escape.1 ∉ ['x', 'X'] := by decide
      refine ⟨⟨mark, digits, rfl, ?_, backslash_not_mem (by decide) each⟩, ?_⟩
      · intro meaning listed
        exact free _ listed marked
      · simp
  | @unicode digits n value inRange =>
      obtain ⟨filled, values, each, _⟩ := value
      have free : ∀ escape ∈ doubleEscapes, escape.1 ≠ 'u' := by decide
      refine ⟨⟨'u', _, rfl, ?_, ?_⟩, ?_⟩
      · intro meaning listed
        exact free _ listed rfl
      · simp [backslash_not_mem (by decide) each]
      · have few := Utf8.length_codePointBytes n
        have some := List.length_pos_of_ne_nil filled
        simp only [List.length_cons, List.length_append, List.length_nil]
        omega

/-- Undoing escapes leaves a numeric one as it is. -/
theorem NumericShape.unescapeDouble_eq {spelling : Text} {bytes : Bytes}
    (shape : NumericShape spelling bytes) (t : Text) :
    unescapeDouble (spelling ++ t) = spelling ++ unescapeDouble t := by
  obtain ⟨c, more, rfl, free, plain⟩ := shape.split
  rw [List.cons_append, List.cons_append, unescapeDouble_free _ free,
    unescapeDouble_append t plain]
  rfl

section Readings

variable {t : Text} {segments : List Segment}

theorem Reads.unescapeDouble_eq (reads : Reads t segments) :
    unescapeDouble t = segments.flatMap Segment.kept := by
  induction reads with
  | nil => rfl
  | bare plain _ ih =>
      rw [unescapeDouble_bare _ plain, ih]
      rfl
  | letter meaning _ ih =>
      rw [unescapeDouble_letter _ meaning, ih]
      rfl
  | backslash alone _ ih =>
      rw [unescapeDouble_free _ alone.letter, ih]
      rfl
  | numeric escape _ ih =>
      rw [escape.shape.unescapeDouble_eq, ih]
      rfl

theorem Reads.shape {spelling : Text} {bytes : Bytes} (reads : Reads t segments)
    (inside : .numeric spelling bytes ∈ segments) : NumericShape spelling bytes := by
  induction reads with
  | nil => cases inside
  | bare _ _ ih => exact ih (by simpa using inside)
  | letter _ _ ih => exact ih (by simpa using inside)
  | backslash _ _ ih => exact ih (by simpa using inside)
  | numeric escape _ ih =>
      rcases List.mem_cons.mp inside with same | later
      · cases same
        exact escape.shape
      · exact ih later

/-- A part that is kept has more bytes than it stands for if it is numeric, else the same. -/
theorem Reads.length_le (reads : Reads t segments) {segment : Segment}
    (inside : segment ∈ segments) :
    segment.bytes.length + segment.isNumeric.toNat ≤ (Utf8.encode segment.kept).length := by
  cases segment with
  | characters text => exact Nat.le_refl _
  | numeric spelling bytes =>
      have shorter := (reads.shape inside).shorter
      have longer := Utf8.length_le_encode spelling
      show bytes.length + 1 ≤ (Utf8.encode spelling).length
      omega

end Readings

section Values

variable {segments : List Segment}

theorem length_bytes_le
    (each : ∀ segment ∈ segments,
      segment.bytes.length + segment.isNumeric.toNat ≤ (Utf8.encode segment.kept).length) :
    (segments.flatMap Segment.bytes).length + segments.countP Segment.isNumeric ≤
      (Utf8.encode (segments.flatMap Segment.kept)).length := by
  induction segments with
  | nil => exact Nat.le_refl 0
  | cons segment segments ih =>
      rw [List.forall_mem_cons] at each
      have first := each.1
      have rest := ih each.2
      have count : (segment :: segments).countP Segment.isNumeric =
          segments.countP Segment.isNumeric + segment.isNumeric.toNat := by
        rw [List.countP_cons]
        cases segment.isNumeric with
        | true => rfl
        | false => rfl
      rw [List.flatMap_cons, List.flatMap_cons, Utf8.encode_append, List.length_append,
        List.length_append, count]
      omega

theorem encode_kept (plain : ∀ segment ∈ segments, segment.isNumeric = false) :
    Utf8.encode (segments.flatMap Segment.kept) = segments.flatMap Segment.bytes := by
  induction segments with
  | nil => rfl
  | cons segment segments ih =>
      rw [List.forall_mem_cons] at plain
      rw [List.flatMap_cons, List.flatMap_cons, Utf8.encode_append, ih plain.2]
      cases segment with
      | characters text => rfl
      | numeric spelling bytes => cases plain.1

end Values

/-- A literal in double quotes, without interpolation, with `inside` between the quotes. -/
structure Encapsed (source : Source) (node : Node) (inside : Text) : Prop where
  type : node.isA "encapsed_string" = true
  parts : ∀ child ∈ node.namedChildren, child.isOneOf stringParts = true
  quotes : ∃ front ∈ binaryMarks,
    source.slice node = Utf8.encode (front ++ '"' :: (inside ++ ['"']))

theorem Encapsed.stringValue?_eq {source : Source} {node : Node} {inside : Text}
    (literal : Encapsed source node inside) :
    source.stringValue? node = some (unescapeDouble inside) := by
  obtain ⟨front, marked, bytes⟩ := literal.quotes
  apply stringValue?_of_between? literal.type literal.parts
  rw [textOf_of_slice bytes]
  exact between?_quoted inside marked (by decide)

/-- The value of a literal, which is the hook that it names, has numeric escapes as they are spelled.
It is the string that the literal stands for exactly if there are none. -/
theorem numeric_escapes_kept {source : Source} {node : Node} {inside : Text}
    {segments : List Segment} (literal : Encapsed source node inside)
    (reads : Reads inside segments) :
    source.stringValue? node = some (segments.flatMap Segment.kept) ∧
    (∀ call, FirstArgument call node →
      (source.callOf call).hook? = some (segments.flatMap Segment.kept)) ∧
    (Utf8.encode (segments.flatMap Segment.kept) = segments.flatMap Segment.bytes ↔
      ∀ segment ∈ segments, segment.isNumeric = false) := by
  have value : source.stringValue? node = some (segments.flatMap Segment.kept) := by
    rw [literal.stringValue?_eq, reads.unescapeDouble_eq]
  refine ⟨value, fun call first => hook?_of_stringValue? value first, ?_, encode_kept⟩
  intro same
  -- every numeric escape adds at least one byte, so texts of one length leave room for none
  have longer := length_bytes_le fun segment inside => reads.length_le inside
  rw [same] at longer
  have none : segments.countP Segment.isNumeric = 0 := by omega
  simpa using List.countP_eq_zero.mp none

section Example

/-- A literal in a call of `f`. -/
private def callLiteral (inside : Text) : Node :=
  let stop := 4 + (Utf8.encode inside).length
  ⟨"encapsed_string".toList, 2, stop, true, none,
    [⟨"escape_sequence".toList, 3, stop - 1, true, none, []⟩]⟩

private def quotedCall (inside : Text) : Source :=
  literalCall ('"' :: (inside ++ ['"'])) (callLiteral inside)

private theorem encapsed_callLiteral (inside : Text) :
    Encapsed (quotedCall inside) (callLiteral inside) inside where
  type := rfl
  parts := by
    intro child listed
    rw [List.mem_singleton.mp listed]
    rfl
  quotes := by
    refine ⟨[], List.mem_cons_self, ?_⟩
    have length : (Utf8.encode ('"' :: (inside ++ ['"']))).length =
        (callLiteral inside).stop - (callLiteral inside).start := by
      have quotes : (Utf8.encode ('"' :: (inside ++ ['"']))).length =
          1 + ((Utf8.encode inside).length + 1) := by
        rw [← List.singleton_append, Utf8.encode_append, Utf8.encode_append, List.length_append,
          List.length_append]
        rfl
      rw [quotes]
      show 1 + ((Utf8.encode inside).length + 1) = 4 + (Utf8.encode inside).length - 2
      omega
    have bytes : (quotedCall inside).bytes =
        Utf8.encode ['f', '('] ++
          (Utf8.encode ('"' :: (inside ++ ['"'])) ++ Utf8.encode [')']) := by
      rw [← Utf8.encode_append, ← Utf8.encode_append, ← List.append_assoc]
      rfl
    have start : (Utf8.encode ['f', '(']).length = (callLiteral inside).start := rfl
    rw [slice, bytes, List.drop_left' start, List.take_left' length]
    rfl

private theorem firstArgument_callLiteral (inside : Text) :
    FirstArgument (quotedCall inside).root (callLiteral inside) :=
  ⟨_, _, rfl, rfl, rfl, rfl⟩

private theorem endsDigits_cons {base : Nat} {c : Char} (t : Text)
    (other : ∀ d < base, c ≠ d.digitChar ∧ c ≠ d.digitChar.toUpper) :
    EndsDigits base (c :: t) := by
  intro first head d digit
  rw [← Option.some.inj head] at digit
  exact digit.of_both (P := fun digit => c ≠ digit) other rfl

/-- A tab, an octal escape with a digit behind it, a hexadecimal one with a letter behind it that is
no digit, a sign of three bytes and a backslash that stands for itself. -/
private def mixed : Text :=
  ['\\', 't', '\\', '1', '0', '1', '7', '\\', 'x', '4', 'g',
    '\\', 'u', '\x7b', '2', '0', 'A', 'c', '\x7d', '\\', 'u']

private def mixedSegments : List Segment :=
  [.characters ['\t'], .numeric ['\\', '1', '0', '1'] [65], .characters ['7'],
    .numeric ['\\', 'x', '4'] [4], .characters ['g'],
    .numeric ['\\', 'u', '\x7b', '2', '0', 'A', 'c', '\x7d'] (Utf8.encode ['€']),
    .characters ['\\', 'u']]

private theorem reads_mixed : Reads mixed mixedSegments := by
  have octal : Denotes 8 ['1', '0', '1'] 65 := Numeral.denotes_toDigits (by decide) 65
  have hexadecimal : Denotes 16 ['4'] 4 := Numeral.denotes_toDigits (by decide) 4
  have unicode : Denotes 16 ['2', '0', 'A', 'c'] '€'.toNat := by
    refine ⟨by simp, [2, 0, 10, 12], ?_, by decide⟩
    exact .cons ⟨by decide, .inl rfl⟩ (.cons ⟨by decide, .inl rfl⟩
      (.cons ⟨by decide, .inr (by decide)⟩ (.cons ⟨by decide, .inl rfl⟩ .nil)))
  have ends : EndsDigits 16 (mixed.drop 10) := endsDigits_cons _ (by decide)
  have alone : StandsAlone 'u' [] :=
    ⟨by simp [doubleEscapes], endsDigits_cons [] (by decide) 'u' rfl, by simp, by simp⟩
  refine .letter (by decide) ?_
  refine .numeric (.octal octal (.inl rfl)) ?_
  refine .bare (by decide) ?_
  refine .numeric (.hexadecimal (by decide) hexadecimal (.inr ⟨by decide, ends⟩)) ?_
  refine .bare (by decide) ?_
  refine .numeric (.character unicode) ?_
  exact .backslash alone .nil

/-- The call names a hook by the escapes as they are spelled, and not by the text `A7`, a control
character, `g` and the sign. -/
theorem numeric_escapes_kept_mixed :
    Encapsed (quotedCall mixed) (callLiteral mixed) mixed ∧ Reads mixed mixedSegments ∧
    ((quotedCall mixed).callOf (quotedCall mixed).root).hook? = some ('\t' :: mixed.drop 2) ∧
    Utf8.encode ('\t' :: mixed.drop 2) ≠
      Utf8.encode ['\t', 'A', '7', '\x04', 'g', '€', '\\', 'u'] := by
  obtain ⟨-, hook, same⟩ := numeric_escapes_kept (encapsed_callLiteral mixed) reads_mixed
  refine ⟨encapsed_callLiteral mixed, reads_mixed, hook _ (firstArgument_callLiteral mixed), ?_⟩
  intro equal
  exact absurd (same.mp equal) (by decide)

/-- A hexadecimal `A` is read as its spelling. -/
theorem hexadecimal_letter_misread :
    ¬ ∀ (source : Source) (node : Node) (inside : Text) (segments : List Segment),
      Encapsed source node inside → Reads inside segments →
      ∀ s, source.stringValue? node = some s → Utf8.encode s = segments.flatMap Segment.bytes := by
  intro read
  have letter : Reads ['\\', 'x', '4', '1'] [.numeric ['\\', 'x', '4', '1'] [65]] := by
    have value : Denotes 16 ['4', '1'] 65 := Numeral.denotes_toDigits (by decide) 65
    exact .numeric (.hexadecimal (by decide) value (.inl rfl)) .nil
  have literal := encapsed_callLiteral ['\\', 'x', '4', '1']
  have value := literal.stringValue?_eq
  rw [letter.unescapeDouble_eq] at value
  exact absurd (read _ _ _ _ literal letter _ value) (by decide)

end Example

end Source

end PhpHooks
