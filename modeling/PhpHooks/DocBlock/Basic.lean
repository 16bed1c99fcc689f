import PhpHooks.Text.Blank
import PhpHooks.Text.Word

set_option autoImplicit false

/-!
Documentation blocks: a summary followed by tags. A tag goes on until the next line that begins a
tag while no brace of it is open, so tags inside braces belong to the tag around them.
-/
namespace PhpHooks

structure DocTag where
  name : Text
  content : Text
  deriving DecidableEq, Repr

structure DocBlock where
  summary : Text
  tags : List DocTag
  deriving DecidableEq, Repr

namespace DocBlock

/-- The only fault of a comment is to be no documentation block. -/
structure Fault where
  deriving DecidableEq, Repr

def Fault.message (_ : Fault) : Text :=
  "Not a PHPDoc block".toList

/-- A line of a comment without the star in front of it, one space after the star, and the blanks
around it. -/
def cleanLine (line : Text) : Text :=
  match Text.trim line with
  | '*' :: ' ' :: rest => Text.trimEnd rest
  | '*' :: rest => Text.trimEnd rest
  | rest => Text.trimEnd rest

/-- Characters of a tag's name after the first, which is an ASCII letter. -/
def continuesTagName (c : Char) : Bool :=
  Text.isWord c || c == '-'

/-- The name of the tag that a line begins and what the line says after it. -/
def tagLine? (line : Text) : Option (Text × Text) :=
  match Text.trim line with
  | '@' :: c :: rest =>
      if Text.isAsciiLetter c then
        some (c :: rest.takeWhile continuesTagName, Text.trim (rest.dropWhile continuesTagName))
      else none
  | _ => none

/-- Whether a line begins a tag where a tag may begin. -/
def isTagLine (line : Text) : Bool :=
  (tagLine? line).isSome

/-- Opening less closing braces. -/
def braceBalance (line : Text) : Int :=
  (line.count '\x7b' : Int) - (line.count '\x7d' : Int)

/-- A tag as it stands in the block: its name and its lines, the first without the name. -/
structure TagLines where
  name : Text
  lines : List Text
  deriving DecidableEq, Repr

/-- The lines that go on with a tag whose braces balance to `balance` so far, and the tags that
come after it. -/
def splitTags (balance : Int) : List Text → List Text × List TagLines
  | [] => ([], [])
  | line :: rest =>
      match tagLine? line with
      | some (name, first) =>
          if balance ≤ 0 then
            let (own, others) := splitTags (braceBalance line) rest
            ([], ⟨name, first :: own⟩ :: others)
          else
            let (own, others) := splitTags (balance + braceBalance line) rest
            (line :: own, others)
      | none =>
          let (own, others) := splitTags (balance + braceBalance line) rest
          (line :: own, others)

/-- The lines put together, without the blanks around the whole. -/
def paragraph (lines : List Text) : Text :=
  Text.trim (Text.joined ['\n'] lines)

/-- The block that cleaned lines spell. Nothing before the first tag opens a brace. -/
def ofLines (lines : List Text) : DocBlock :=
  { summary := paragraph (lines.takeWhile fun line => !isTagLine line)
    tags := (splitTags 0 (lines.dropWhile fun line => !isTagLine line)).2.map fun tag =>
      ⟨tag.name, paragraph tag.lines⟩ }

/-- What stands between the opening and the closing mark of a documentation block. -/
def body? (comment : Text) : Option Text :=
  let comment := Text.trim comment
  if Text.startsWith comment ['/', '*', '*'] && Text.endsWith comment ['*', '/'] &&
      5 ≤ comment.length then
    some ((comment.drop 3).take (comment.length - 5))
  else none

def cleanLines (body : Text) : List Text :=
  (Text.lines body).map cleanLine

def parse (comment : Text) : Except Fault DocBlock :=
  match body? comment with
  | some body => .ok (ofLines (cleanLines body))
  | none => .error {}

def contents (block : DocBlock) (name : Text) : List Text :=
  (block.tags.filter fun tag => tag.name == name).map DocTag.content

end DocBlock
end PhpHooks
