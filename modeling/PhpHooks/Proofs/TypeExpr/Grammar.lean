import PhpHooks.TypeExpr.Parser

set_option autoImplicit false

/-!
The grammar of type expressions over tokens, with the value of every phrase. It says which token
lists spell a type and says nothing about how they are read.
-/
namespace PhpHooks

def Lexeme.ofMark (c : Char) : Lexeme := ⟨.mark, [c]⟩

/-- Whether a token is an integer with more digits than may be read. -/
def Lexeme.isLongInteger (token : Lexeme) : Bool :=
  token.kind == .number &&
    (Numeral.natural? 10 (Numeral.splitSign token.text).2).isSome &&
    decide (Numeral.maxDigits < (Numeral.splitSign token.text).2.length)

namespace TypeExpr

/-- The phrases of the grammar. A primary type is closed unless it ends in the result of a
callable. What follows a name, the tail of a callable, its parameters and the items of a shape
are read behind the token that announces them, and the last two up to and with the mark that
closes them. -/
inductive Phrase where
  | union
  | alternatives
  | member
  | primary (closed : Bool)
  | named (name : Text) (closed : Bool)
  | arguments
  | parameters
  | callable (closed : Bool)
  | items

abbrev Phrase.Value : Phrase → Type
  | .arguments => List UnionType
  | .parameters => List UnionType
  | .items => List ShapeItem
  | _ => UnionType

def brackets : Nat → List Lexeme
  | 0 => []
  | count + 1 => .ofMark '[' :: .ofMark ']' :: brackets count

/-- A type inside `count` arrays. -/
def arraysOf : Nat → UnionType → UnionType
  | 0, u => u
  | count + 1, u => arraysOf count [.named "array".toList [u]]

/-- The tokens between the key of an item and its type. -/
def separator (optional : Bool) : List Lexeme :=
  if optional then [.ofMark '?', .ofMark ':'] else [.ofMark ':']

/-- `Derives greedy phrase tokens value` says that the tokens are such a phrase with that value. In
the greedy grammar brackets behind the result of a callable belong to the result; otherwise they
may also stand for an array of such callables. -/
inductive Derives (greedy : Bool) : (phrase : Phrase) → List Lexeme → phrase.Value → Prop
  | union {first others : List Lexeme} {u v : UnionType} :
      Derives greedy .member first u → Derives greedy .alternatives others v →
      Derives greedy .union (first ++ others) (UnionType.distinct (u ++ v))
  | alternativesNone : Derives greedy .alternatives [] []
  | alternativesMore {first others : List Lexeme} {u v : UnionType} :
      Derives greedy .member first u → Derives greedy .alternatives others v →
      Derives greedy .alternatives (.ofMark '|' :: (first ++ others)) (u ++ v)
  | member {tokens : List Lexeme} {u : UnionType} {closed : Bool} (count : Nat) :
      Derives greedy (.primary closed) tokens u →
      (greedy = true → closed = false → count = 0) →
      Derives greedy .member (tokens ++ brackets count) (arraysOf count u)
  | nullable {tokens : List Lexeme} {u : UnionType} {closed : Bool} :
      Derives greedy (.primary closed) tokens u →
      Derives greedy (.primary closed) (.ofMark '?' :: tokens)
        (UnionType.distinct (u ++ UnionType.named "null"))
  | group {tokens : List Lexeme} {u : UnionType} :
      Derives greedy .union tokens u →
      Derives greedy (.primary true) (.ofMark '(' :: (tokens ++ [.ofMark ')'])) u
  | string (text : Text) :
      Derives greedy (.primary true) [⟨.string, text⟩] [.literal (.string (stringValue text))]
  | number {text : Text} {value : Literal} : numberValue text = .ok value →
      Derives greedy (.primary true) [⟨.number, text⟩] [.literal value]
  | name {name : Text} {tokens : List Lexeme} {u : UnionType} {closed : Bool} :
      Derives greedy (.named name closed) tokens u →
      Derives greedy (.primary closed) (⟨.name, name⟩ :: tokens) u
  | truth {name : Text} : Text.lower name = "true".toList →
      Derives greedy (.named name true) [] [.literal (.bool true)]
  | falsity {name : Text} : Text.lower name = "false".toList →
      Derives greedy (.named name true) [] [.literal (.bool false)]
  | shape {name : Text} {tokens : List Lexeme} {items : List ShapeItem} :
      isShapeName (Text.lower name) = true → Derives greedy .items tokens items →
      Derives greedy (.named name true) (.ofMark '\x7b' :: tokens)
        [.shape (Text.lower name) items]
  | callableName {name : Text} {tokens : List Lexeme} {u : UnionType} {closed : Bool} :
      isCallableName (Text.lower name) = true → Derives greedy (.callable closed) tokens u →
      Derives greedy (.named name closed) (.ofMark '(' :: tokens) u
  | generic {name : Text} {tokens : List Lexeme} {arguments : List UnionType} :
      Text.lower name ≠ "true".toList → Text.lower name ≠ "false".toList →
      Derives greedy .arguments tokens arguments →
      Derives greedy (.named name true) (.ofMark '<' :: (tokens ++ [.ofMark '>']))
        [.named name arguments]
  | plain {name : Text} :
      Text.lower name ≠ "true".toList → Text.lower name ≠ "false".toList →
      Derives greedy (.named name true) [] [.named name []]
  | argumentsOne {tokens : List Lexeme} {u : UnionType} : Derives greedy .union tokens u →
      Derives greedy .arguments tokens [u]
  | argumentsMore {first others : List Lexeme} {u : UnionType} {us : List UnionType} :
      Derives greedy .union first u → Derives greedy .arguments others us →
      Derives greedy .arguments (first ++ .ofMark ',' :: others) (u :: us)
  | parametersNone : Derives greedy .parameters [.ofMark ')'] []
  | parametersSome {tokens : List Lexeme} {us : List UnionType} :
      Derives greedy .arguments tokens us →
      Derives greedy .parameters (tokens ++ [.ofMark ')']) us
  | withoutResult {tokens : List Lexeme} {parameters : List UnionType} :
      Derives greedy .parameters tokens parameters →
      Derives greedy (.callable true) tokens [.callable parameters none]
  | withResult {tokens result : List Lexeme} {parameters : List UnionType} {u : UnionType} :
      Derives greedy .parameters tokens parameters → Derives greedy .member result u →
      Derives greedy (.callable false) (tokens ++ .ofMark ':' :: result)
        [.callable parameters (some u)]
  | itemsNone : Derives greedy .items [.ofMark '\x7d'] []
  | itemsLast {token : Lexeme} {key : Text} {tokens : List Lexeme} {u : UnionType}
      (optional : Bool) : shapeKey token = .ok key → Derives greedy .union tokens u →
      Derives greedy .items (token :: (separator optional ++ (tokens ++ [.ofMark '\x7d'])))
        [⟨key, u, optional⟩]
  | itemsMore {token : Lexeme} {key : Text} {tokens others : List Lexeme} {u : UnionType}
      {items : List ShapeItem} (optional : Bool) :
      shapeKey token = .ok key → Derives greedy .union tokens u →
      Derives greedy .items others items →
      Derives greedy .items (token :: (separator optional ++ (tokens ++ .ofMark ',' :: others)))
        (⟨key, u, optional⟩ :: items)

end TypeExpr
end PhpHooks
