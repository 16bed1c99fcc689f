import PhpHooks.Text.Blank
import PhpHooks.Text.Digit
import PhpHooks.Text.Word

set_option autoImplicit false

/-!
The lexemes of a type expression. Blanks are lexemes too, so that the lexemes of a text put
together again give the text; the tokens are the others.
-/
namespace PhpHooks

inductive LexemeKind where
  | blank
  | string
  | number
  | name
  | mark
  deriving DecidableEq, Repr

structure Lexeme where
  kind : LexemeKind
  text : Text
  deriving DecidableEq, Repr

namespace Lexeme

/-- The rest of a quoted string up to and with its closing mark. A backslash takes the next
character with it, which cannot be a line feed. -/
def stringTail? (mark : Char) : Text → Option (Text × Text)
  | [] => none
  | '\\' :: [] => none
  | '\\' :: c :: rest =>
      if c == '\n' then none
      else (stringTail? mark rest).map fun (tail, after) => ('\\' :: c :: tail, after)
  | c :: rest =>
      if c == mark then some ([c], rest)
      else (stringTail? mark rest).map fun (tail, after) => (c :: tail, after)

def string? : Text → Option (Text × Text)
  | [] => none
  | c :: rest =>
      if c == '\'' || c == '"' then
        (stringTail? c rest).map fun (tail, after) => (c :: tail, after)
      else none

/-- Digits with at most one point among them, before or after which a digit stands. -/
def mantissa? (t : Text) : Option (Text × Text) :=
  let whole := t.takeWhile Text.isDigit
  match t.dropWhile Text.isDigit with
  | '.' :: more =>
      let fraction := more.takeWhile Text.isDigit
      if whole.isEmpty && fraction.isEmpty then none
      else some (whole ++ '.' :: fraction, more.dropWhile Text.isDigit)
  | rest => if whole.isEmpty then none else some (whole, rest)

/-- An exponent with its sign, if the text goes on with a whole one; otherwise nothing is taken. -/
def exponent (t : Text) : Text × Text :=
  match t with
  | [] => ([], t)
  | c :: rest =>
      if c == 'e' || c == 'E' then
        let (sign, unsigned) :=
          match rest with
          | '+' :: more => (['+'], more)
          | '-' :: more => (['-'], more)
          | _ => ([], rest)
        let digits := unsigned.takeWhile Text.isDigit
        if digits.isEmpty then ([], t)
        else (c :: sign ++ digits, unsigned.dropWhile Text.isDigit)
      else ([], t)

/-- A number, with a minus sign in front of a negative one. -/
def number? (t : Text) : Option (Text × Text) :=
  let (sign, unsigned) :=
    match t with
    | '-' :: rest => (['-'], rest)
    | _ => ([], t)
  (mantissa? unsigned).map fun (mantissa, rest) =>
    let (power, after) := exponent rest
    (sign ++ mantissa ++ power, after)

/-- Characters that a name begins with, a leading backslash apart. -/
def startsName (c : Char) : Bool :=
  Text.isAsciiLetter c || c == '_'

def continuesName (c : Char) : Bool :=
  Text.isAsciiLetter c || Text.isAsciiDigit c || c == '_' || c == '\\' || c == '-'

def plainName? : Text → Option (Text × Text)
  | [] => none
  | c :: rest =>
      if startsName c then some (c :: rest.takeWhile continuesName, rest.dropWhile continuesName)
      else none

/-- A name: the variable `$this` as a whole word, or a possibly qualified name. -/
def name? : Text → Option (Text × Text)
  | '$' :: 't' :: 'h' :: 'i' :: 's' :: rest =>
      if (rest.head?.map Text.isWord).getD false then none
      else some (['$', 't', 'h', 'i', 's'], rest)
  | '\\' :: rest => (plainName? rest).map fun (name, after) => ('\\' :: name, after)
  | t => plainName? t

def isMark (c : Char) : Bool :=
  c == '|' || c == '&' || c == '?' || c == '(' || c == ')' || c == '<' || c == '>' ||
    c == '\x7b' || c == '\x7d' || c == '[' || c == ']' || c == ',' || c == ':'

/-- The first lexeme of a text and what follows it. -/
def first? (t : Text) : Option (Lexeme × Text) :=
  let blanks := t.takeWhile Text.isBlank
  if !blanks.isEmpty then some (⟨.blank, blanks⟩, t.dropWhile Text.isBlank)
  else
    match string? t with
    | some (text, rest) => some (⟨.string, text⟩, rest)
    | none =>
        match number? t with
        | some (text, rest) => some (⟨.number, text⟩, rest)
        | none =>
            match name? t with
            | some (text, rest) => some (⟨.name, text⟩, rest)
            | none =>
                match t with
                | c :: rest => if isMark c then some (⟨.mark, [c]⟩, rest) else none
                | [] => none

/-- The lexemes of a text, or the character at which none begins. No text has more lexemes than
characters, so its length bounds the search. -/
def scanWithin : Nat → Text → Except Char (List Lexeme)
  | _, [] => .ok []
  | 0, c :: _ => .error c
  | bound + 1, c :: rest =>
      match first? (c :: rest) with
      | none => .error c
      | some (lexeme, after) =>
          match scanWithin bound after with
          | .ok lexemes => .ok (lexeme :: lexemes)
          | .error stray => .error stray

def scan (t : Text) : Except Char (List Lexeme) :=
  scanWithin t.length t

/-- Whether a lexeme means something. -/
def isToken (lexeme : Lexeme) : Bool :=
  lexeme.kind != .blank

/-- A lexeme with the number of characters in front of it. -/
structure Placed where
  lexeme : Lexeme
  position : Nat
  deriving DecidableEq, Repr

/-- Lexemes that follow one another, the first of them behind so many characters. -/
def placeFrom : Nat → List Lexeme → List Placed
  | _, [] => []
  | start, lexeme :: rest => ⟨lexeme, start⟩ :: placeFrom (start + lexeme.text.length) rest

/-- The lexemes of a text without its blanks, each where it stands. -/
def placedTokens (t : Text) : Except Char (List Placed) :=
  (scan t).map fun lexemes => (placeFrom 0 lexemes).filter (·.lexeme.isToken)

def tokens (t : Text) : Except Char (List Lexeme) :=
  (placedTokens t).map (List.map Placed.lexeme)

def isThe (c : Char) (lexeme : Lexeme) : Bool :=
  lexeme.kind == .mark && lexeme.text == [c]

end Lexeme
end PhpHooks
