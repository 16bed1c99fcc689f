import PhpHooks.Text.Blank
import PhpHooks.Text.Word

set_option autoImplicit false

/-!
Array shapes written as nested documentation: `@type` lines with a type and a key inside one pair
of braces.
-/
namespace PhpHooks.ArrayShape

/-- The type and the key of a `@type` line at the beginning of a text, and what follows the key. -/
def typeLine? (t : Text) : Option ((Text × Text) × Text) :=
  if !Text.startsWith t "@type".toList then none
  else
    let t := t.drop 5
    let t₁ := t.dropWhile Text.isBlank
    let type := t₁.takeWhile fun c => !Text.isBlank c
    match (t₁.dropWhile fun c => !Text.isBlank c).dropWhile Text.isBlank with
    | '$' :: rest =>
        let key := rest.takeWhile Text.isWord
        if t₁.length < t.length && !type.isEmpty && !key.isEmpty then
          some ((type, key), rest.dropWhile Text.isWord)
        else none
    | _ => none

/-- The types and keys of all `@type` lines. A text has no more lines than characters, so its
length bounds the search. -/
def typeLinesWithin : Nat → Text → List (Text × Text)
  | _, [] => []
  | 0, _ => []
  | bound + 1, c :: rest =>
      match typeLine? (c :: rest) with
      | some (entry, after) => entry :: typeLinesWithin bound after
      | none => typeLinesWithin bound rest

def typeLines (t : Text) : List (Text × Text) :=
  typeLinesWithin t.length t

def spell (entries : List (Text × Text)) : Text :=
  "array".toList ++ ['\x7b', ' '] ++
    Text.joined [',', ' '] (entries.map fun (type, key) => key ++ ':' :: ' ' :: type) ++
    [' ', '\x7d']

/-- The shape that a description with exactly one opening brace documents, if it has lines for
it. -/
def ofDescription? (content : Text) : Option Text :=
  if content.count '\x7b' != 1 then none
  else
    match typeLines content with
    | [] => none
    | entries => some (spell entries)

end PhpHooks.ArrayShape
