import PhpHooks.Hook.Kind
import PhpHooks.TypeExpr.Basic

set_option autoImplicit false

/-!
The registry of hook signatures. A name keeps the kind and the place of its first registration;
later registrations replace parameter types position by position and never remove one.
-/
namespace PhpHooks

structure Signature where
  kind : HookKind
  parameters : List UnionType

/-- The supplied types stand first; of the stored ones those beyond them stay. -/
def Signature.merge (stored : Signature) (supplied : List UnionType) : Signature :=
  { stored with parameters := supplied ++ stored.parameters.drop supplied.length }

/-- Signatures by hook name, in the order of first registration. -/
structure Registry where
  entries : List (Text × Signature)

namespace Registry

def empty : Registry := ⟨[]⟩

def get? (r : Registry) (name : Text) : Option Signature :=
  r.entries.lookup name

def contains (r : Registry) (name : Text) : Bool :=
  (r.get? name).isSome

def names (r : Registry) : List Text :=
  r.entries.map Prod.fst

def size (r : Registry) : Nat :=
  r.entries.length

/-- The entries with `signature` under `name`: in its place if the name is there, else at the
end. -/
def put (name : Text) (signature : Signature) : List (Text × Signature) → List (Text × Signature)
  | [] => [(name, signature)]
  | (other, stored) :: rest =>
      if other == name then (name, signature) :: rest
      else (other, stored) :: put name signature rest

/-- The signature that a registration leaves under its name. -/
def merged (r : Registry) (name : Text) (kind : HookKind) (supplied : List UnionType) :
    Signature :=
  match r.get? name with
  | none => ⟨kind, supplied⟩
  | some stored => stored.merge supplied

/-- Registers a hook, and gives the signature that is under its name then. Missing types are left out
before the positions are counted. -/
def register (r : Registry) (name : Text) (kind : HookKind) (types : List (Option UnionType)) :
    Registry × Signature :=
  let signature := r.merged name kind (types.filterMap id)
  (⟨put name signature r.entries⟩, signature)

end Registry
end PhpHooks
