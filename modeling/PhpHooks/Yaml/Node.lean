import PhpHooks.Yaml.Scalar

set_option autoImplicit false

/-!
Documents before their scalars have values. A mapping may merge others into itself: their fields
come first, and its own fields count more.
-/
namespace PhpHooks

/-- A node of a document; `broken` is a mapping that merges what is no mapping. -/
inductive YamlNode where
  | plain (text : Text)
  | quoted (glyphs : List Glyph)
  | sequence (elements : List YamlNode)
  | mapping (fields : List (YamlNode × YamlNode))
  | broken

namespace YamlNode

def fields? : YamlNode → Option (List (YamlNode × YamlNode))
  | .mapping fields => some fields
  | _ => none

/-- The fields that a value gives to the mapping it is merged into. Of a sequence of mappings the
first one counts most. -/
def mergedFields? : YamlNode → Option (List (YamlNode × YamlNode))
  | .mapping fields => some fields
  | .sequence elements => (elements.mapM fields?).map fun parts => parts.reverse.flatten
  | _ => none

def isMergeKey : YamlNode → Bool
  | .plain text => text == Yaml.mergeKey
  | _ => false

/-- A node as a key; the key for a value as a whole is an ordinary text. -/
def asKey : YamlNode → YamlNode
  | .plain text =>
      if text == Yaml.valueKey then .quoted (Glyph.ofText text) else .plain text
  | node => node

mutual

def merged : YamlNode → YamlNode
  | .plain text => .plain text
  | .quoted glyphs => .quoted glyphs
  | .sequence elements => .sequence (mergedElements elements)
  | .mapping fields =>
      match mergedParts fields with
      | some (others, own) => .mapping (others ++ own)
      | none => .broken
  | .broken => .broken
termination_by structural node => node

def mergedElements : List YamlNode → List YamlNode
  | [] => []
  | node :: rest => node.merged :: mergedElements rest
termination_by structural elements => elements

def mergedParts : List (YamlNode × YamlNode) →
    Option (List (YamlNode × YamlNode) × List (YamlNode × YamlNode))
  | [] => some ([], [])
  | (key, value) :: rest => do
      let value := value.merged
      let added ← if key.isMergeKey then value.mergedFields? else some []
      let (others, own) ← mergedParts rest
      return (added ++ others, if key.isMergeKey then own else (key.asKey, value) :: own)
termination_by structural fields => fields

end

/-- A result, or a fault with the depth of the collection that it lies in. -/
abbrev Attempt (α : Type) := Except (Nat × YamlFault) α

/-- Both results. Values are made level by level, so a fault nearer to the top comes first. -/
def both {α β : Type} (first : Attempt α) (second : Attempt β) : Attempt (α × β) :=
  match first, second with
  | .ok a, .ok b => .ok (a, b)
  | .error fault, .ok _ => .error fault
  | .ok _, .error fault => .error fault
  | .error fault, .error other => .error (if other.1 < fault.1 then other else fault)

/-- The value of a key, which has to be a scalar. -/
def keyValue (depth : Nat) : YamlNode → Attempt Yaml
  | .plain text => (Yaml.ofPlain text).mapError fun fault => (depth, fault)
  | .quoted glyphs => .ok (.string glyphs)
  | _ => .error (depth, .malformed)

mutual

/-- The value of a node that lies in a collection at `depth`. -/
def valueAt (depth : Nat) : YamlNode → Attempt Yaml
  | .plain text => (Yaml.ofPlain text).mapError fun fault => (depth, fault)
  | .quoted glyphs => .ok (.string glyphs)
  | .sequence elements => (elementValues (depth + 1) elements).map .sequence
  | .mapping fields =>
      (fieldValues (depth + 1) fields).map fun fields => .mapping (Yaml.distinctFields fields)
  | .broken => .error (depth + 1, .malformed)
termination_by structural node => node

def elementValues (depth : Nat) : List YamlNode → Attempt (List Yaml)
  | [] => .ok []
  | node :: rest =>
      (both (node.valueAt depth) (elementValues depth rest)).map fun (first, others) =>
        first :: others
termination_by structural elements => elements

def fieldValues (depth : Nat) : List (YamlNode × YamlNode) → Attempt (List (Yaml × Yaml))
  | [] => .ok []
  | (key, value) :: rest =>
      (both (both (key.keyValue depth) (value.valueAt depth)) (fieldValues depth rest)).map
        fun (first, others) => first :: others
termination_by structural fields => fields

end

def value (node : YamlNode) : Except YamlFault Yaml :=
  (node.merged.valueAt 0).mapError Prod.snd

end YamlNode
end PhpHooks
