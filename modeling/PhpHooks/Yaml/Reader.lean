import PhpHooks.Yaml.Cursor
import PhpHooks.Yaml.Node

set_option autoImplicit false

/-!
Reading YAML documents made of block and flow collections and of plain and quoted scalars. Block
collections are told by the columns of their entries; a mapping is told by a key, which lies on
one line and has a colon behind it.
-/
namespace PhpHooks.Yaml

/-- The longest key, up to its colon. -/
def maxKeyLength : Nat := 1024

/-- Whether what lies between two places may be a key. -/
def spansKey (first colon : Cursor) : Bool :=
  first.line == colon.line && colon.index - first.index ≤ maxKeyLength

def Cursor.skipSpaces (here : Cursor) : Cursor :=
  here.forward (here.rest.takeWhile (· == ' ')).length

def Cursor.isEntry (here : Cursor) : Bool :=
  match here.rest with
  | '-' :: rest => isEdge rest.head?
  | _ => false

/-- Whether a colon that makes what is before it a block key stands here. -/
def Cursor.isKeyColon (here : Cursor) : Bool :=
  match here.rest with
  | ':' :: rest => isEdge rest.head?
  | _ => false

mutual

/-- A node inside a flow collection. The first argument bounds the depth of the recursion; `parse`
gives a bound that no document reaches. -/
def flowNode : Nat → Cursor → Except YamlFault (YamlNode × Cursor)
  | 0, _ => .error .malformed
  | bound + 1, here =>
      if here.isAnyMarker then .error .malformed
      else
        match here.peek with
        | some '[' => flowSequence bound [] (here.forward 1)
        | some '\x7b' => flowMapping bound [] (here.forward 1)
        | some '\'' => do
            let (glyphs, here) ← here.quoted '\''
            return (.quoted glyphs, here)
        | some '"' => do
            let (glyphs, here) ← here.quoted '"'
            return (.quoted glyphs, here)
        | _ =>
            if startsPlain true here.rest then
              let (text, here) := here.plain true 0
              .ok (.plain text, here)
            else .error .malformed

/-- The value behind a colon in a flow collection; nothing is null. -/
def flowValue : Nat → Cursor → Except YamlFault (YamlNode × Cursor)
  | 0, _ => .error .malformed
  | bound + 1, here =>
      let here := here.toToken
      match here.peek with
      | some ',' => .ok (.plain [], here)
      | some ']' => .ok (.plain [], here)
      | some '\x7d' => .ok (.plain [], here)
      | _ => flowNode bound here

/-- The elements of a flow sequence behind its opening bracket or a comma. -/
def flowSequence : Nat → List YamlNode → Cursor → Except YamlFault (YamlNode × Cursor)
  | 0, _, _ => .error .malformed
  | bound + 1, elements, here => do
      let first := here.toToken
      if first.peek == some ']' then return (.sequence elements, first.forward 1)
      else
        let (element, here) ← flowNode bound first
        let colon := here.toToken
        let (element, here) ←
          if colon.peek == some ':' then
            if spansKey first colon then do
              let (value, here) ← flowValue bound (colon.forward 1)
              Except.ok (YamlNode.mapping [(element, value)], here)
            else Except.error .malformed
          else Except.ok (element, colon)
        let here := here.toToken
        match here.peek with
        | some ',' => flowSequence bound (elements ++ [element]) (here.forward 1)
        | some ']' => return (.sequence (elements ++ [element]), here.forward 1)
        | _ => .error here.unexpected

/-- The fields of a flow mapping behind its opening brace or a comma. -/
def flowMapping : Nat → List (YamlNode × YamlNode) → Cursor → Except YamlFault (YamlNode × Cursor)
  | 0, _, _ => .error .malformed
  | bound + 1, fields, here => do
      let first := here.toToken
      if first.peek == some '\x7d' then return (.mapping fields, first.forward 1)
      else
        let (key, here) ← flowNode bound first
        let colon := here.toToken
        let (value, here) ←
          if colon.peek == some ':' then
            if spansKey first colon then flowValue bound (colon.forward 1)
            else Except.error .malformed
          else Except.ok (YamlNode.plain [], colon)
        let fields := fields ++ [(key, value)]
        let here := here.toToken
        match here.peek with
        | some ',' => flowMapping bound fields (here.forward 1)
        | some '\x7d' => return (.mapping fields, here.forward 1)
        | _ => .error here.unexpected

end

/-- A scalar or a flow collection in a block, whose plain scalars go on from column `indent` on. -/
def inlineNode (bound : Nat) (indent : Int) (here : Cursor) :
    Except YamlFault (YamlNode × Cursor) :=
  match here.peek with
  | some '[' => flowNode bound here
  | some '\x7b' => flowNode bound here
  | some '\'' => flowNode bound here
  | some '"' => flowNode bound here
  | _ =>
      if startsPlain false here.rest then
        let (text, here) := here.plain false indent
        .ok (.plain text, here)
      else .error .malformed

/-- Whether nothing but a gap follows on the line where something ended. -/
def endsLine (ended : Cursor) : Bool :=
  let next := ended.toToken
  next.peek.isNone || ended.line < next.line

mutual

/-- The node behind the indicator of a block that stands at column `indent`. `keyed` says whether a
key or an entry may begin on the same line; `level` whether a sequence may begin at the column of
the block itself. -/
def blockNode : Nat → Int → Bool → Bool → Cursor → Except YamlFault (YamlNode × Cursor)
  | 0, _, _, _, _ => .error .malformed
  | bound + 1, indent, keyed, level, here =>
      let first := here.toToken
      let keyed := keyed || here.line < first.line
      if first.peek.isNone || first.isAnyMarker then .ok (.plain [], first)
      else if level && (first.column : Int) == indent && first.isEntry &&
          here.line < first.line then
        blockSequence bound true first.column [] first
      else if (first.column : Int) ≤ indent then .ok (.plain [], first)
      else if first.isEntry then
        if keyed then blockSequence bound false first.column [] first else .error .malformed
      else do
        let (value, ended) ← inlineNode bound (indent + 1) first
        let colon := ended.skipSpaces
        if colon.isKeyColon then
          if keyed && spansKey first colon then blockMapping bound first.column [] first
          else .error .malformed
        else if endsLine ended then return (value, ended)
        else .error ended.unexpected

/-- The entries of a block sequence at `column`. One at the column of the mapping around it ends
where a key follows. -/
def blockSequence : Nat → Bool → Nat → List YamlNode → Cursor → Except YamlFault (YamlNode × Cursor)
  | 0, _, _, _, _ => .error .malformed
  | bound + 1, level, column, elements, here => do
      let (element, ended) ← blockNode bound column true false (here.forward 1)
      let next := ended.toToken
      let elements := elements ++ [element]
      if next.peek.isNone || next.isAnyMarker || next.column < column then
        return (.sequence elements, next)
      else if next.column == column && next.isEntry then
        blockSequence bound level column elements next
      else if next.column == column && level then return (.sequence elements, next)
      else .error next.unexpected

def blockMapping :
    Nat → Nat → List (YamlNode × YamlNode) → Cursor → Except YamlFault (YamlNode × Cursor)
  | 0, _, _, _ => .error .malformed
  | bound + 1, column, fields, first => do
      let (key, ended) ← inlineNode bound (column + 1) first
      let colon := ended.skipSpaces
      if !(colon.isKeyColon && spansKey first colon) then .error .malformed
      else
        let (value, ended) ← blockNode bound column false true (colon.forward 1)
        let fields := fields ++ [(key, value)]
        let next := ended.toToken
        if next.peek.isNone || next.isAnyMarker || next.column < column then
          return (.mapping fields, next)
        else if next.column == column then blockMapping bound column fields next
        else .error next.unexpected

end

def isAllowed (c : Char) : Bool :=
  let n := c.toNat
  n == 0x9 || n == 0xa || n == 0xd || (0x20 ≤ n && n ≤ 0x7e) || n == 0x85 ||
    (0xa0 ≤ n && n ≤ 0xd7ff) || (0xe000 ≤ n && n ≤ 0xfffd) || 0x10000 ≤ n

/-- Whether a document is over: nothing follows but closing markers. The text's length bounds their
number. -/
def isOverWithin : Nat → Cursor → Bool
  | 0, _ => false
  | bound + 1, here =>
      let here := here.toToken
      here.peek.isNone || (here.isMarker '.' && isOverWithin bound (here.forward 3))

def isOver (here : Cursor) : Bool :=
  isOverWithin (here.rest.length + 1) here

/-- The one document that a text holds. A mark for the byte order in front and an opening marker are
passed over. -/
def document (t : Text) : Except YamlFault YamlNode :=
  if !t.all isAllowed then .error .malformed
  else do
    let t := if t.head? == some (Char.ofNat 0xfeff) then t.drop 1 else t
    let here := (Cursor.start t).toToken
    let bound := 4 * t.length + 8
    let (node, ended) ←
      if here.isMarker '-' then blockNode bound (-1) false false (here.forward 3)
      else if here.isMarker '.' then Except.error .malformed
      else blockNode bound (-1) true false here
    if isOver ended then return node else .error .malformed

/-- The value of the one document that a text holds. Scalars get their values once the whole text
has been read. -/
def parse (t : Text) : Except YamlFault Yaml := do
  let node ← document t
  node.value

end PhpHooks.Yaml
