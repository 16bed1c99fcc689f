import PhpHooks.DocBlock.ArrayShape
import PhpHooks.Hook.Kind
import PhpHooks.Json.Basic

set_option autoImplicit false

/-!
Descriptors of hooks as corpus documents hold them.
-/
namespace PhpHooks

/-- A documentation tag; `types` is missing when the tag declares none. -/
structure DescriptorTag where
  name : Text
  content : Text
  types : Option (List Text)
  deriving DecidableEq, Repr

structure Descriptor where
  name : Text
  kind : HookKind
  file : Option Text
  aliases : List Text
  description : Text
  longDescription : Text
  tags : List DescriptorTag
  deriving DecidableEq, Repr

namespace Descriptor

def strings? (value : JsonValue) : Option (List Text) :=
  value.array?.bind fun elements => elements.mapM JsonValue.string?

/-- A field that may be absent, for which `missing` then stands, but has to be right if it is
there. -/
def optional {α : Type} (fields : List (Text × JsonValue)) (key : String) (missing : α)
    (read : JsonValue → Option α) : Option α :=
  match JsonValue.field? key.toList fields with
  | none => some missing
  | some value => read value

def nullable {α : Type} (read : JsonValue → Option α) : JsonValue → Option (Option α)
  | .null => some none
  | value => (read value).map some

def tag? (value : JsonValue) : Option DescriptorTag := do
  let fields ← value.object?
  let name ← (← JsonValue.field? "name".toList fields).string?
  let content ← optional fields "content" [] JsonValue.string?
  let types ← optional fields "types" none (nullable strings?)
  return ⟨name, content, types⟩

/-- The description, the long description and the tags of a documentation object. -/
def doc? (value : JsonValue) : Option (Text × Text × List DescriptorTag) := do
  let fields ← value.object?
  let description ← optional fields "description" [] JsonValue.string?
  let longDescription ← optional fields "long_description" [] JsonValue.string?
  let tags ← optional fields "tags" [] fun tags => tags.array?.bind fun tags => tags.mapM tag?
  return (description, longDescription, tags)

/-- The descriptor that a value is, if it is one. Name and kind are required; unknown fields are
ignored. -/
def ofJson? (value : JsonValue) : Option Descriptor := do
  let fields ← value.object?
  let name ← (← JsonValue.field? "name".toList fields).string?
  let kind ← HookKind.ofName? (← (← JsonValue.field? "type".toList fields).string?)
  let file ← optional fields "file" none (nullable JsonValue.string?)
  let aliases ← optional fields "aliases" [] strings?
  let (description, longDescription, tags) ← optional fields "doc" ([], [], []) doc?
  return { name, kind, file, aliases, description, longDescription, tags }

/-- The type expression of a parameter tag. Without a type, or with a bare array, the tag's nested
documentation gives a shape if it can. -/
def tagExpression (tag : DescriptorTag) : Text :=
  let shape? :=
    if tag.types.isNone || tag.types == some ["array".toList] then
      ArrayShape.ofDescription? tag.content
    else none
  match shape? with
  | some shape => shape
  | none => Text.joined ['|'] (tag.types.getD [])

/-- The type expressions of the parameters in order; a parameter without any is passed over. -/
def expressions (d : Descriptor) : List Text :=
  ((d.tags.filter fun tag => tag.name == "param".toList).map tagExpression).filter
    fun t => !t.isEmpty

end Descriptor
end PhpHooks
