import PhpHooks.Number.Double

set_option autoImplicit false

/-!
Documented types. A type is a union of atomic types in order, without repetition: names with
arguments, literal values, array shapes and callables.
-/
namespace PhpHooks

inductive Literal where
  | string (value : Text)
  | int (value : Int)
  | float (value : Double)
  | bool (value : Bool)
  deriving DecidableEq, Repr

namespace Literal

def base : Literal → Text
  | .string _ => "string".toList
  | .int _ => "int".toList
  | .float _ => "float".toList
  | .bool _ => "bool".toList

/-- Literals of one base are compared by value, floats as numbers. -/
def same : Literal → Literal → Bool
  | .string s, .string t => s == t
  | .int m, .int n => m == n
  | .float x, .float y => x.same y
  | .bool a, .bool b => a == b
  | _, _ => false

end Literal

mutual

/-- One member of a union. -/
inductive AtomicType where
  | named (name : Text) (arguments : List (List AtomicType))
  | literal (value : Literal)
  | shape (name : Text) (items : List ShapeItem)
  | callable (parameters : List (List AtomicType)) (result : Option (List AtomicType))

structure ShapeItem where
  key : Text
  type : List AtomicType
  optional : Bool

end

/-- The members of a type in order. -/
abbrev UnionType := List AtomicType

mutual

/-- Equality of atomic types, with float literals compared as numbers. -/
def AtomicType.same : AtomicType → AtomicType → Bool
  | .named name arguments, .named name' arguments' =>
      name == name' && sameUnions arguments arguments'
  | .literal value, .literal value' => value.same value'
  | .shape name items, .shape name' items' => name == name' && sameItems items items'
  | .callable parameters result, .callable parameters' result' =>
      sameUnions parameters parameters' && sameResult result result'
  | _, _ => false
termination_by structural atom => atom

def UnionType.same : List AtomicType → List AtomicType → Bool
  | [], [] => true
  | a :: u, b :: v => a.same b && UnionType.same u v
  | _, _ => false
termination_by structural members => members

def sameUnions : List (List AtomicType) → List (List AtomicType) → Bool
  | [], [] => true
  | u :: us, v :: vs => UnionType.same u v && sameUnions us vs
  | _, _ => false
termination_by structural unions => unions

def sameItems : List ShapeItem → List ShapeItem → Bool
  | [], [] => true
  | ⟨key, type, optional⟩ :: items, ⟨key', type', optional'⟩ :: items' =>
      key == key' && UnionType.same type type' && optional == optional' && sameItems items items'
  | _, _ => false
termination_by structural items => items

def sameResult : Option (List AtomicType) → Option (List AtomicType) → Bool
  | none, none => true
  | some u, some v => UnionType.same u v
  | _, _ => false
termination_by structural result => result

end

namespace UnionType

/-- Each member once, at its first occurrence. -/
def distinct : List AtomicType → UnionType
  | [] => []
  | a :: rest => a :: (distinct rest).filter fun b => !a.same b

/-- The type with one member, a name without arguments. -/
def named (name : String) : UnionType :=
  [.named name.toList []]

/-- Any type at all. -/
def mixed : UnionType := named "mixed"

def isSingle (u : UnionType) : Bool :=
  u.length == 1

end UnionType

/-- A literal gives way to the type it belongs to. -/
def AtomicType.widen : AtomicType → AtomicType
  | .literal value => .named value.base []
  | atom => atom

/-- Literal members give way to the types they belong to. -/
def UnionType.widen (u : UnionType) : UnionType :=
  distinct (u.map AtomicType.widen)

end PhpHooks
