set_option autoImplicit false

/-!
Texts as lists of characters, and the operations on them that know no character classes.
-/
namespace PhpHooks

/-- A text is the list of its characters, so that every operation on it is a list operation. -/
abbrev Text := List Char

namespace Text

def startsWith (t start : Text) : Bool :=
  start.isPrefixOf t

def endsWith (t ending : Text) : Bool :=
  ending.isSuffixOf t

def joined (separator : Text) (parts : List Text) : Text :=
  separator.intercalate parts

def without (c : Char) (t : Text) : Text :=
  t.filter (· != c)

def ofNat (n : Nat) : Text :=
  Nat.toDigits 10 n

/-- The decimal numeral of an integer, with a minus sign below zero. -/
def ofInt (n : Int) : Text :=
  if n < 0 then '-' :: ofNat n.natAbs else ofNat n.natAbs

/-- Whether the code point of `c` lies in one of the closed ranges. -/
def inRanges (ranges : List (Nat × Nat)) (c : Char) : Bool :=
  ranges.any fun range => range.1 ≤ c.toNat && c.toNat ≤ range.2

/-- Order by code points, a proper beginning before what it begins. -/
def le : Text → Text → Bool
  | [], _ => true
  | _ :: _, [] => false
  | a :: s, b :: t => a.toNat < b.toNat || (a == b && le s t)

end Text
end PhpHooks
