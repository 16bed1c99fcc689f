import PhpHooks.Text.Lowercase
import PhpHooks.Text.Quoted
import PhpHooks.TypeExpr.Basic
import PhpHooks.TypeExpr.Lexeme

set_option autoImplicit false

/-!
Reading a type expression. A union is a sequence of members with bars between them, a member is a
primary type with any number of `[]` after it, and a primary type is a group, a nullable type, a
literal, a shape, a callable or a name with or without arguments. A reader gives what it read
and the tokens after it.

The readers call one another as deep as a text nests, and `parse` takes for granted that there is
always room for one more call. Where the room may end, a text is read by `parse?` on a `Stack`.
-/
namespace PhpHooks

inductive Malformed where
  | character (stray : Char)
  | empty
  | unexpected (token : Text)
  | ended
  | missing (wanted : Char) (found : Option Text)
  | shapeKey (token : Text)
  deriving DecidableEq, Repr

def Malformed.message (text : Text) : Malformed → Text
  | .character stray =>
      "Unexpected character ".toList ++ Text.quoted [stray] ++ " in ".toList ++ Text.quoted text
  | .empty => "Empty type expression".toList
  | .unexpected token =>
      "Unexpected ".toList ++ Text.quoted token ++ " in ".toList ++ Text.quoted text
  | .ended => "Unexpected end of ".toList ++ Text.quoted text
  | .missing wanted found =>
      "Expected ".toList ++ Text.quoted [wanted] ++ " but found ".toList ++
        Text.quoted (found.getD "end of input".toList) ++ " in ".toList ++ Text.quoted text
  | .shapeKey token =>
      "Invalid array shape key ".toList ++ Text.quoted token ++ " in ".toList ++ Text.quoted text

/-- A text is refused as a type because it is malformed, or because an integer in it has too many
digits. -/
inductive TypeFault where
  | malformed (cause : Malformed)
  | overflow (cause : Numeral.Overflow)
  deriving DecidableEq, Repr

def TypeFault.message (text : Text) : TypeFault → Text
  | .malformed cause => cause.message text
  | .overflow cause => cause.message

namespace TypeExpr

/-- The rest after the mark `c`, if the tokens begin with it. -/
def accept? (c : Char) : List Lexeme → Option (List Lexeme)
  | token :: rest => if token.isThe c then some rest else none
  | [] => none

/-- The rest after the mark `c`, which has to be there. -/
def expect (c : Char) (tokens : List Lexeme) : Except TypeFault (List Lexeme) :=
  match accept? c tokens with
  | some rest => .ok rest
  | none => .error (.malformed (.missing c (tokens.head?.map Lexeme.text)))

/-- Every `[]` wraps the type before it into an array of it. -/
def wrapArrays (u : UnionType) : List Lexeme → UnionType × List Lexeme
  | opening :: closing :: rest =>
      if opening.isThe '[' && closing.isThe ']' then
        wrapArrays [.named "array".toList [u]] rest
      else (u, opening :: closing :: rest)
  | tokens => (u, tokens)

/-- Every backslash takes the next character as it is; before a line feed and at the end it stands
for itself. -/
def unescape : Text → Text
  | '\\' :: c :: rest => if c == '\n' then '\\' :: unescape (c :: rest) else c :: unescape rest
  | c :: rest => c :: unescape rest
  | [] => []

/-- The value of a string token, which stands between quotation marks. -/
def stringValue (token : Text) : Text :=
  unescape (token.drop 1).dropLast

/-- The value of a number token: an integer if it holds digits and a sign only. -/
def numberValue (token : Text) : Except TypeFault Literal :=
  let (negative, unsigned) := Numeral.splitSign token
  match Numeral.natural? 10 unsigned with
  | some value =>
      if Numeral.maxDigits < unsigned.length then .error (.overflow (.reading unsigned.length))
      else .ok (.int (Numeral.signed negative value))
  | none => .ok (.float ((Double.read? token).getD .notANumber))

/-- The key that a token gives to an array shape. -/
def shapeKey (token : Lexeme) : Except TypeFault Text :=
  match token.kind with
  | .string => .ok (stringValue token.text)
  | .name | .number => .ok token.text
  | .blank | .mark => .error (.malformed (.shapeKey token.text))

def isShapeName (lowered : Text) : Bool :=
  lowered == "array".toList || lowered == "list".toList ||
    lowered == "non-empty-array".toList || lowered == "non-empty-list".toList

def isCallableName (lowered : Text) : Bool :=
  lowered == "callable".toList || lowered == "closure".toList || lowered == "\\closure".toList

mutual

/-- A union. The first argument bounds the depth of the recursion; `parse` gives a bound that no
expression reaches. -/
def union : Nat → List Lexeme → Except TypeFault (UnionType × List Lexeme)
  | 0, _ => .error (.malformed .ended)
  | bound + 1, tokens => do
      let (first, tokens) ← member bound tokens
      let (others, tokens) ← alternatives bound tokens
      return (UnionType.distinct (first ++ others), tokens)

def alternatives : Nat → List Lexeme → Except TypeFault (UnionType × List Lexeme)
  | 0, _ => .error (.malformed .ended)
  | bound + 1, tokens =>
      match accept? '|' tokens with
      | none => .ok ([], tokens)
      | some tokens => do
          let (first, tokens) ← member bound tokens
          let (others, tokens) ← alternatives bound tokens
          return (first ++ others, tokens)

/-- A primary type with its `[]`. -/
def member : Nat → List Lexeme → Except TypeFault (UnionType × List Lexeme)
  | 0, _ => .error (.malformed .ended)
  | bound + 1, tokens => do
      let (u, tokens) ← primary bound tokens
      return wrapArrays u tokens

/-- A group, a nullable type, a literal or what begins with a name. -/
def primary : Nat → List Lexeme → Except TypeFault (UnionType × List Lexeme)
  | 0, _ => .error (.malformed .ended)
  | _ + 1, [] => .error (.malformed .ended)
  | bound + 1, token :: tokens =>
      match token.kind with
      | .string => .ok ([.literal (.string (stringValue token.text))], tokens)
      | .number => do
          let value ← numberValue token.text
          return ([.literal value], tokens)
      | .name => named bound token.text tokens
      | .blank | .mark =>
          if token.text == ['?'] then do
            let (u, tokens) ← primary bound tokens
            return (UnionType.distinct (u ++ UnionType.named "null"), tokens)
          else if token.text == ['('] then do
            let (u, tokens) ← union bound tokens
            let tokens ← expect ')' tokens
            return (u, tokens)
          else .error (.malformed (.unexpected token.text))

def named : Nat → Text → List Lexeme → Except TypeFault (UnionType × List Lexeme)
  | 0, _, _ => .error (.malformed .ended)
  | bound + 1, name, tokens =>
      let lowered := Text.lower name
      if lowered == "true".toList then .ok ([.literal (.bool true)], tokens)
      else if lowered == "false".toList then .ok ([.literal (.bool false)], tokens)
      else
        match isShapeName lowered, accept? '\x7b' tokens with
        | true, some tokens => do
            let (items, tokens) ← shapeItems bound tokens
            return ([.shape lowered items], tokens)
        | _, _ =>
            match isCallableName lowered, accept? '(' tokens with
            | true, some tokens => callable bound tokens
            | _, _ =>
                match accept? '<' tokens with
                | some tokens => do
                    let (arguments, tokens) ← unions bound tokens
                    let tokens ← expect '>' tokens
                    return ([.named name arguments], tokens)
                | none => .ok ([.named name []], tokens)

def unions : Nat → List Lexeme → Except TypeFault (List UnionType × List Lexeme)
  | 0, _ => .error (.malformed .ended)
  | bound + 1, tokens => do
      let (first, tokens) ← union bound tokens
      match accept? ',' tokens with
      | none => return ([first], tokens)
      | some tokens => do
          let (others, tokens) ← unions bound tokens
          return (first :: others, tokens)

/-- The items of a shape up to and with its closing brace, which may stand behind a comma. -/
def shapeItems : Nat → List Lexeme → Except TypeFault (List ShapeItem × List Lexeme)
  | 0, _ => .error (.malformed .ended)
  | bound + 1, tokens =>
      match accept? '\x7d' tokens, tokens with
      | some tokens, _ => .ok ([], tokens)
      | none, [] => .error (.malformed .ended)
      | none, token :: tokens => do
          let key ← shapeKey token
          let optional := (accept? '?' tokens).isSome
          let tokens ← expect ':' ((accept? '?' tokens).getD tokens)
          let (type, tokens) ← union bound tokens
          match accept? ',' tokens with
          | some tokens => do
              let (others, tokens) ← shapeItems bound tokens
              return (⟨key, type, optional⟩ :: others, tokens)
          | none => do
              let tokens ← expect '\x7d' tokens
              return ([⟨key, type, optional⟩], tokens)

/-- The parameters of a callable up to the closing parenthesis, and its result behind a colon. -/
def callable : Nat → List Lexeme → Except TypeFault (UnionType × List Lexeme)
  | 0, _ => .error (.malformed .ended)
  | bound + 1, tokens => do
      let (parameters, tokens) ←
        match accept? ')' tokens with
        | some tokens => Except.ok ([], tokens)
        | none => do
            let (parameters, tokens) ← unions bound tokens
            let tokens ← expect ')' tokens
            Except.ok (parameters, tokens)
      match accept? ':' tokens with
      | some tokens => do
          let (result, tokens) ← member bound tokens
          return ([.callable parameters (some result)], tokens)
      | none => return ([.callable parameters none], tokens)

end

/-- The type that a list of tokens spells as a whole. Reading one token nests at most five calls,
which the bound allows for. -/
def ofTokens (tokens : List Lexeme) : Except TypeFault UnionType :=
  if tokens.isEmpty then .error (.malformed .empty)
  else
    match union (6 * tokens.length + 6) tokens with
    | .error fault => .error fault
    | .ok (u, []) => .ok u
    | .ok (_, token :: _) => .error (.malformed (.unexpected token.text))

def parse (t : Text) : Except TypeFault UnionType :=
  match Lexeme.tokens t with
  | .error stray => .error (.malformed (.character stray))
  | .ok tokens => ofTokens tokens

/-- Whether a type nests behind the token. -/
def opens (token : Lexeme) : Bool :=
  ['?', '(', '<', '\x7b', '[', ':'].any fun c => token.isThe c

/-- The number of levels that a text can nest, each of which takes a mark that opens it. -/
def openings (t : Text) : Nat :=
  match Lexeme.tokens t with
  | .error _ => 0
  | .ok tokens => tokens.countP opens

end TypeExpr

/-- The stack that texts are read on. It has room for every text with at most `depth` openings; for
one with more of them that depends on the text. -/
class Stack where
  depth : Nat
  hasRoom : Text → Bool
  hasRoom_of_openings_le : ∀ t, TypeExpr.openings t ≤ depth → hasRoom t = true

/-- A stack without an end. It is the stack meant wherever no other is named. -/
instance Stack.boundless : Stack where
  depth := 0
  hasRoom _ := true
  hasRoom_of_openings_le _ _ := rfl

/-- The type that a text spells, unless the stack has no room to read it. -/
def TypeExpr.parse? [Stack] (t : Text) : Option (Except TypeFault UnionType) :=
  if Stack.hasRoom t then some (parse t) else none

end PhpHooks
