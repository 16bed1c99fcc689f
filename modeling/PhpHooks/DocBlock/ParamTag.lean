import PhpHooks.DocBlock.Basic

set_option autoImplicit false

/-!
Parameter tags: a type, a variable and a description, each of which may be missing. Blanks inside
brackets or quotes belong to the type, and so do blanks beside a bar or a colon.
-/
namespace PhpHooks

/-- The parts of a parameter tag; `parameter` is the variable with its marks. There is no type when
the tag declares no usable one. -/
structure ParamTag where
  type : Option Text
  parameter : Option Text
  description : Text
  deriving DecidableEq, Repr

namespace ParamTag

/-- The text after `opening` and the blanks behind it, and what was taken. Nothing is taken from a
text that begins otherwise. -/
def skipMark (opening t : Text) : Text × Text :=
  if Text.startsWith t opening then
    let rest := t.drop opening.length
    (opening ++ rest.takeWhile Text.isBlank, rest.dropWhile Text.isBlank)
  else ([], t)

/-- The variable at the beginning of a text, with the marks for a reference and for further
arguments in front of it, and what follows. -/
def parameter? (t : Text) : Option (Text × Text) :=
  let (reference, t) := skipMark ['&'] t
  let (spread, t) := skipMark ['.', '.', '.'] t
  match t with
  | '$' :: rest =>
      let name := rest.takeWhile Text.isWord
      if name.isEmpty then none
      else some (reference ++ spread ++ '$' :: name, rest.dropWhile Text.isWord)
  | _ => none

def closing? (c : Char) : Option Char :=
  if c == '<' then some '>'
  else if c == '\x7b' then some '\x7d'
  else if c == '(' then some ')'
  else if c == '[' then some ']'
  else none

/-- Whether a type goes on across blanks after `last`, the last character that is not blank. -/
def continuesAfter (last : Option Char) : Bool :=
  last == some '|' || last == some ':' || last == some ','

/-- Whether a type goes on across the blanks at the beginning of `t`. -/
def continuesInto (t : Text) : Bool :=
  match Text.trimStart t with
  | c :: _ => c == '|' || c == ':'
  | [] => false

/-- Where reading a type stands: the brackets still to be closed, innermost first, the quotation
mark still to be closed, and the last character that was not blank. -/
structure Reading where
  brackets : List Char
  quote : Option Char
  last : Option Char

/-- The reading after the character `c` outside quotes. -/
def Reading.advance (r : Reading) (c : Char) : Reading :=
  let r := if Text.isBlank c then r else { r with last := some c }
  if c == '\'' || c == '"' then { r with quote := some c }
  else
    match closing? c with
    | some bracket => { r with brackets := bracket :: r.brackets }
    | none => if r.brackets.head? == some c then { r with brackets := r.brackets.tail } else r

/-- Whether a type ends before `c :: rest`: at a blank outside brackets and quotes, unless a bar,
a colon or a comma carries it on. -/
def Reading.stopsAt (r : Reading) (c : Char) (rest : Text) : Bool :=
  r.brackets.isEmpty && Text.isBlank c && !continuesAfter r.last && !continuesInto (c :: rest)

/-- The type at the beginning of a text and what follows it. Inside quotes a backslash takes the
next character with it. -/
def splitType (r : Reading) : Text → Text × Text
  | [] => ([], [])
  | c :: rest =>
      match r.quote with
      | some mark =>
          let next := { r with last := if Text.isBlank c then r.last else some c }
          if c == '\\' then
            match rest with
            | [] => ([c], [])
            | d :: more =>
                let (type, after) :=
                  splitType { next with last := if Text.isBlank d then next.last else some d } more
                (c :: d :: type, after)
          else
            let next := if c == mark then { next with quote := none } else next
            let (type, after) := splitType next rest
            (c :: type, after)
      | none =>
          if r.stopsAt c rest then ([], c :: rest)
          else
            let (type, after) := splitType (r.advance c) rest
            (c :: type, after)

/-- The depth of brackets after a text, all kinds counted alike, unless it falls below zero on the
way. -/
def bracketDepth? (depth : Nat) : Text → Option Nat
  | [] => some depth
  | c :: rest =>
      if c == '<' || c == '\x7b' || c == '(' || c == '[' then bracketDepth? (depth + 1) rest
      else if c == '>' || c == '\x7d' || c == ')' || c == ']' then
        match depth with
        | 0 => none
        | depth + 1 => bracketDepth? depth rest
      else bracketDepth? depth rest

/-- Whether every bracket is closed and none closes too early. -/
def isBalanced (t : Text) : Bool :=
  bracketDepth? 0 t == some 0

def ofContent (content : Text) : ParamTag :=
  let content := Text.trim content
  match parameter? content with
  | some (parameter, rest) => ⟨none, some parameter, Text.trim rest⟩
  | none =>
      let (taken, rest) := splitType ⟨[], none, none⟩ content
      let type := Text.trim taken
      if type.isEmpty || !isBalanced type then ⟨none, none, content⟩
      else
        let rest := Text.trim rest
        match parameter? rest with
        | some (parameter, after) => ⟨some type, some parameter, Text.trim after⟩
        | none => ⟨some type, none, rest⟩

end ParamTag

def DocBlock.params (block : DocBlock) : List ParamTag :=
  (block.contents "param".toList).map ParamTag.ofContent

end PhpHooks
