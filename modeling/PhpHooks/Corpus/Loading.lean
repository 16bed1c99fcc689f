import PhpHooks.Corpus.Descriptor
import PhpHooks.Hook.Registry
import PhpHooks.Json.Reader
import PhpHooks.RunFault
import PhpHooks.Text.Utf8
import PhpHooks.TypeExpr.Reading

set_option autoImplicit false

/-!
Loading hook descriptors into the registry. A descriptor counts as a whole or not at all, and one
that does not count leaves the others alone.
-/
namespace PhpHooks

/-- What a corpus document offers. One that is not readable is passed over; one that failed ends the
loading. -/
inductive Corpus where
  | unreadable (cause : ReadFault)
  | failed (cause : RunFault)
  | withoutHooks
  | entries (descriptors : List (Option Descriptor))

namespace Corpus

/-- The entries of a JSON document, with `none` for each that is not valid as a descriptor. -/
def ofJson (validate : JsonValue → Option Descriptor) : JsonValue → Corpus
  | .object fields =>
      match JsonValue.field? "hooks".toList fields with
      | some (.array (first :: rest)) => .entries ((first :: rest).map validate)
      | _ => .withoutHooks
  | _ => .withoutHooks

def ofBytes (bytes : Bytes) : Corpus :=
  match Utf8.decode? bytes with
  | none => .unreadable .badEncoding
  | some text =>
      match JsonValue.parse text with
      | .error .malformed => .unreadable .badJson
      | .error (.overflow cause) => .failed (.overflow cause)
      | .ok value => ofJson Descriptor.ofJson? value

/-- The state after loading: the registry, the number of hooks loaded, what happened, and the fault
that ended the loading, if one did. -/
structure Loaded where
  registry : Registry
  count : Nat
  events : List Event
  fault : Option RunFault

def Loaded.after (events : List Event) (loaded : Loaded) : Loaded :=
  { loaded with events := events ++ loaded.events }

def Loaded.plus (count : Nat) (loaded : Loaded) : Loaded :=
  { loaded with count := count + loaded.count }

section Reading

variable [Stack]

/-- The usable types of expressions, up to one that cannot be read to its end. -/
def readTypes : List Text → List Event × Except ReadingFault (List UnionType)
  | [] => ([], .ok [])
  | t :: rest =>
      match TypeReading.ofText (some t) with
      | .failed cause => ([], .error cause)
      | .nothing => readTypes rest
      | .dropped cause =>
          let (events, types) := readTypes rest
          (.typeDropped t cause :: events, types)
      | .usable u =>
          let (events, types) := readTypes rest
          (events, types.map (u :: ·))

/-- The event of a registration, which only a new name gives. -/
def registrationEvents (r : Registry) (name : Text) (kind : HookKind) (parameters : Nat) :
    List Event :=
  if r.contains name then [] else [.registered kind name parameters]

def registerNames (kind : HookKind) (types : List UnionType) :
    List Text → Registry → Registry × List Event
  | [], r => (r, [])
  | name :: rest, r =>
      let (after, events) :=
        registerNames kind types rest (r.register name kind (types.map some)).1
      (after, registrationEvents r name kind types.length ++ events)

/-- Loads entries in order. An entry with a parameter type that is not usable is skipped. -/
def loadEntries (source : Text) : List (Option Descriptor) → Registry → Loaded
  | [], r => ⟨r, 0, [], none⟩
  | none :: rest, r => (loadEntries source rest r).after [.entryMalformed source]
  | some d :: rest, r =>
      match readTypes d.expressions with
      | (events, .error cause) => ⟨r, 0, events, some (.ofReading cause)⟩
      | (events, .ok types) =>
          if types.length == d.expressions.length then
            let (r, registered) := registerNames d.kind types (d.name :: d.aliases) r
            ((loadEntries source rest r).plus 1).after (events ++ registered)
          else
            (loadEntries source rest r).after (events ++ [.entryUnusable d.name source])

def load (source : Text) (r : Registry) : Corpus → Loaded
  | .unreadable cause => ⟨r, 0, [.corpusSkipped source cause], none⟩
  | .failed cause => ⟨r, 0, [], some cause⟩
  | .withoutHooks => ⟨r, 0, [.corpusWithoutHooks source], none⟩
  | .entries descriptors => loadEntries source descriptors r

def loadHooks (validate : JsonValue → Option Descriptor) (source : Text) (r : Registry)
    (hooks : List JsonValue) : Loaded :=
  (ofJson validate (.object [("hooks".toList, .array hooks)])).load source r

def loadEach : List (Text × Corpus) → Registry → Loaded
  | [], r => ⟨r, 0, [], none⟩
  | (source, corpus) :: rest, r =>
      let first := corpus.load source r
      match first.fault with
      | some _ => first
      | none => ((loadEach rest first.registry).plus first.count).after first.events

end Reading

def distinctSources : List (Text × Corpus) → List (Text × Corpus)
  | [] => []
  | entry :: rest => entry :: (distinctSources rest).filter fun other => other.1 != entry.1

/-- Loads the documents of a session, each source once. A registry that holds a hook is left as it
is. -/
def loadAll (documents : List (Text × Corpus)) (r : Registry) : Loaded :=
  if r.entries.isEmpty then
    let loaded := loadEach (distinctSources documents) r
    match loaded.fault with
    | some _ => loaded
    | none =>
        { loaded with
          events := loaded.events ++ [.corpusLoaded loaded.count documents.length] }
  else ⟨r, 0, [], none⟩

end Corpus
end PhpHooks
