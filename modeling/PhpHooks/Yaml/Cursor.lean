import PhpHooks.Yaml.Scalar

set_option autoImplicit false

/-!
Places in a YAML text, gaps between tokens, and the scalars that start at a place.
-/
namespace PhpHooks.Yaml

/-- What is left of a text, and where it begins. -/
structure Cursor where
  rest : Text
  index : Nat
  line : Nat
  column : Nat

def isBreak (c : Char) : Bool :=
  c == '\n' || c.toNat == 0x85 || c.toNat == 0x2028 || c.toNat == 0x2029

/-- Whether a token ends before what comes next. -/
def isEdge : Option Char → Bool
  | none => true
  | some c => c == ' ' || c == '\t' || isBreak c

namespace Cursor

def start (t : Text) : Cursor := ⟨t, 0, 0, 0⟩

/-- The place behind `taken`, which is followed by `rest`. -/
def past (here : Cursor) (taken rest : Text) : Cursor :=
  let lastLine := taken.reverse.takeWhile fun c => !isBreak c
  { rest
    index := here.index + taken.length
    line := here.line + taken.countP isBreak
    column := if taken.any isBreak then lastLine.length else here.column + taken.length }

/-- The place behind `count` characters. -/
def forward (here : Cursor) (count : Nat) : Cursor :=
  here.past (here.rest.take count) (here.rest.drop count)

def peek (here : Cursor) : Option Char := here.rest.head?

end Cursor

/-- What spaces, breaks and comments at the beginning of a text cover. -/
def gap (inComment : Bool) : Text → Text
  | [] => []
  | c :: rest =>
      if isBreak c then c :: gap false rest
      else if inComment || c == ' ' then c :: gap inComment rest
      else if c == '#' then c :: gap true rest
      else []

def Cursor.toToken (here : Cursor) : Cursor :=
  here.forward (gap false here.rest).length

/-- Whether a line begins with three dashes or three dots that stand alone. -/
def isMarkerText (mark : Char) : Text → Bool
  | a :: b :: c :: rest => a == mark && b == mark && c == mark && isEdge rest.head?
  | _ => false

def Cursor.isMarker (mark : Char) (here : Cursor) : Bool :=
  here.column == 0 && isMarkerText mark here.rest

def Cursor.isAnyMarker (here : Cursor) : Bool :=
  here.isMarker '-' || here.isMarker '.'

def isFlowMark (c : Char) : Bool :=
  c == ',' || c == '?' || c == '[' || c == ']' || c == '\x7b' || c == '\x7d'

/-- Whether a colon followed by this ends a plain scalar. -/
def endsKey (flow : Bool) (next : Option Char) : Bool :=
  isEdge next || (flow && (next.map fun c => isFlowMark c && c != '?').getD false)

/-- The part of a plain scalar up to the next blank, and what follows it. -/
def plainChunk (flow : Bool) : Text → Text × Text
  | [] => ([], [])
  | c :: rest =>
      if isEdge (some c) || (c == ':' && endsKey flow rest.head?) || (flow && isFlowMark c) then
        ([], c :: rest)
      else
        let (chunk, after) := plainChunk flow rest
        (c :: chunk, after)

/-- The breaks among spaces at the beginning of a text, up to a document marker, and the characters
covered. -/
def breaksIn (isSpace : Char → Bool) (lineStart : Bool) : Text → Text × Text
  | [] => ([], [])
  | c :: rest =>
      if lineStart && (isMarkerText '-' (c :: rest) || isMarkerText '.' (c :: rest)) then ([], [])
      else if isBreak c then
        let (breaks, covered) := breaksIn isSpace true rest
        (c :: breaks, c :: covered)
      else if isSpace c then
        let (breaks, covered) := breaksIn isSpace false rest
        (breaks, c :: covered)
      else ([], [])

/-- A next-line character counts as a line feed. -/
def breakText (c : Char) : Char :=
  if c.toNat == 0x85 then '\n' else c

/-- What breaks between two lines of a scalar fold to: a single line feed to a space, further ones
to themselves. -/
def folded : Text → Text
  | [] => []
  | first :: more =>
      let more := more.map breakText
      if breakText first != '\n' then breakText first :: more
      else if more.isEmpty then [' '] else more

/-- More of a plain scalar behind `spaces`, and the place where it ends; `none` if it goes on no
further. The lines after the first have to begin at column `indent` or later, except in a flow
collection. The text's length bounds the search. -/
def plainFrom (flow : Bool) (indent : Int) : Nat → Text → Cursor → Option (Text × Cursor)
  | 0, _, _ => none
  | bound + 1, spaces, here =>
      let (chunk, rest) := plainChunk flow here.rest
      if here.peek == some '#' || chunk.isEmpty then none
      else
        let ended := here.past chunk rest
        let blanks := rest.takeWhile (· == ' ')
        let behind := ended.forward blanks.length
        let more? :=
          if (behind.peek.map isBreak).getD false then
            let (breaks, covered) := breaksIn (· == ' ') false behind.rest
            let next := behind.forward covered.length
            if next.isAnyMarker || (!flow && (next.column : Int) < indent) then none
            else plainFrom flow indent bound (folded breaks) next
          else if blanks.isEmpty then none
          else plainFrom flow indent bound blanks behind
        match more? with
        | some (more, last) => some (spaces ++ chunk ++ more, last)
        | none => some (spaces ++ chunk, ended)

def Cursor.plain (flow : Bool) (indent : Int) (here : Cursor) : Text × Cursor :=
  (plainFrom flow indent (here.rest.length + 1) [] here).getD ([], here)

def escapeChar? (c : Char) : Option Char :=
  match c with
  | '0' => some (Char.ofNat 0)
  | 'a' => some '\x07'
  | 'b' => some '\x08'
  | 't' => some '\t'
  | '\t' => some '\t'
  | 'n' => some '\n'
  | 'v' => some '\x0b'
  | 'f' => some '\x0c'
  | 'r' => some '\r'
  | 'e' => some '\x1b'
  | ' ' => some ' '
  | '"' => some '"'
  | '\\' => some '\\'
  | '/' => some '/'
  | 'N' => some (Char.ofNat 0x85)
  | '_' => some (Char.ofNat 0xa0)
  | 'L' => some (Char.ofNat 0x2028)
  | 'P' => some (Char.ofNat 0x2029)
  | _ => none

def escapeWidth? (c : Char) : Option Nat :=
  if c == 'x' then some 2 else if c == 'u' then some 4 else if c == 'U' then some 8 else none

def isInnerSpace (c : Char) : Bool := c == ' ' || c == '\t'

/-- The breaks at the beginning of a line of a quoted scalar, and the characters covered; `none`
before a document marker. -/
def lineBreaks? (t : Text) : Option (Text × Text) :=
  let (breaks, covered) := breaksIn isInnerSpace true t
  let after := t.drop covered.length
  let lineStart := (covered.getLast?.map isBreak).getD true
  if lineStart && (isMarkerText '-' after || isMarkerText '.' after) then none
  else some (breaks, covered)

/-- The spaces and breaks inside a quoted scalar, folded, and the characters covered; `none` before
a document marker and at the end. -/
def quotedGap? (t : Text) : Option (Text × Text) :=
  let blanks := t.takeWhile isInnerSpace
  match t.dropWhile isInnerSpace with
  | [] => none
  | c :: rest =>
      if isBreak c then
        (lineBreaks? rest).map fun (breaks, covered) =>
          (folded (c :: breaks), blanks ++ c :: covered)
      else some (blanks, blanks)

def codeGlyph (code : Nat) : Except YamlFault Glyph :=
  match Glyph.ofCode? code with
  | some glyph => .ok glyph
  | none => .error (.scalar (if code < Nat.pow 2 31 then .noCharacter else .tooLarge))

/-- What a backslash and the text behind it stand for in double quotes, and the characters covered
behind the backslash. -/
def escaped : Text → Except YamlFault (List Glyph × Text)
  | [] => .error .malformed
  | letter :: after =>
      if isBreak letter then
        match lineBreaks? after with
        | some (breaks, covered) =>
            .ok (Glyph.ofText (breaks.map breakText), letter :: covered)
        | none => .error .malformed
      else
        match escapeChar? letter, escapeWidth? letter with
        | some char, _ => .ok ([.char char], [letter])
        | none, some width =>
            let digits := after.take width
            if digits.length == width && digits.all isHexDigit then
              (codeGlyph (digitsValue 16 digits)).map fun glyph => ([glyph], letter :: digits)
            else .error .malformed
        | none, none => .error .malformed

/-- The next part of a quoted scalar and the characters covered; nothing at its closing mark. -/
def quotedPart (mark : Char) (t : Text) : Except YamlFault (Option (List Glyph × Text)) :=
  match t with
  | [] => .error .malformed
  | c :: rest =>
      if isEdge (some c) then
        match quotedGap? t with
        | some (text, covered) => .ok (some (Glyph.ofText text, covered))
        | none => .error .malformed
      else if c == mark then
        if mark == '\'' && rest.head? == some mark then .ok (some ([.char mark], [mark, mark]))
        else .ok none
      else if c == '\\' && mark == '"' then
        (escaped rest).map fun (glyphs, covered) => some (glyphs, c :: covered)
      else .ok (some ([.char c], [c]))

/-- The rest of a quoted scalar behind its opening mark: its glyphs and the number of characters
covered, with the closing mark. The text's length bounds the search. -/
def quotedFrom (mark : Char) : Nat → Text → Except YamlFault (List Glyph × Nat)
  | 0, _ => .error .malformed
  | bound + 1, t => do
      match ← quotedPart mark t with
      | none => return ([], 1)
      | some (glyphs, covered) =>
          let (more, others) ← quotedFrom mark bound (t.drop covered.length)
          return (glyphs ++ more, covered.length + others)

def Cursor.quoted (mark : Char) (here : Cursor) : Except YamlFault (List Glyph × Cursor) :=
  (quotedFrom mark (here.rest.length + 1) (here.rest.drop 1)).map fun (glyphs, covered) =>
    (glyphs, here.forward (covered + 1))

/-- The fault of finding something at a place where it may not be. A scalar is read before it is
found to be out of place. -/
def Cursor.unexpected (here : Cursor) : YamlFault :=
  let next := here.toToken
  let scanned :=
    match next.peek with
    | some '\'' => next.quoted '\''
    | some '"' => next.quoted '"'
    | _ => .error .malformed
  match scanned with
  | .ok _ => .malformed
  | .error fault => fault

def startsPlain (flow : Bool) : Text → Bool
  | [] => false
  | c :: rest =>
      let isSpecial := isEdge (some c) || "-?:,[]#&*!|>'\"%@".toList.contains c || c == '\x7b' ||
        c == '\x7d' || c.toNat == 0x60
      !isSpecial || (!isEdge rest.head? && (c == '-' || (!flow && (c == '?' || c == ':'))))

end PhpHooks.Yaml
