import PhpHooks.Corpus.Bundled
import PhpHooks.Discovery.CallSites
import PhpHooks.Discovery.DocComments
import PhpHooks.Registration
import PhpHooks.Settings
import PhpHooks.Source.Evident

set_option autoImplicit false

/-!
A session: the corpus is loaded first; then each file gives its documented hooks, and its calls
are followed in order, those that invoke a hook and those that register a callback.
-/
namespace PhpHooks

/-- Where the tool's own data lies, the settings, and what is known so far. -/
structure Session where
  data : Path
  settings : Settings
  registry : Registry
  issues : IssueBuffer
  log : List Event

namespace Session

def note (s : Session) (events : List Event) : Session :=
  { s with log := s.log ++ events }

/-- The bundled corpora with the paths that they are shown under. -/
def bundled (data : Path) : List (Text × Corpus) :=
  let folder := data.child "hooks".toList
  [((folder.child "actions.json".toList).text, .entries (Bundled.actions.map some)),
    ((folder.child "filters.json".toList).text, .entries (Bundled.filters.map some))]

def corpusAt (fs : FileSystem) (p : Path) : Text × Corpus :=
  match fs.read p with
  | .ok content => (p.text, Corpus.ofBytes content.bytes)
  | .error .nullByte => (p.text, .failed (.unreadable .nullByte))
  | .error cause => (p.text, .unreadable cause)

/-- The corpora of a session, the bundled ones first if they are wanted. -/
def corpora (s : Session) (fs : FileSystem) : Except RunFault (List (Text × Corpus)) := do
  let files ← (s.settings.hookFiles fs).mapError .unreadable
  return (if s.settings.useDefaultHooks then bundled s.data else []) ++ files.map (corpusAt fs)

def stubFiles (s : Session) : List Path :=
  if s.settings.useDefaultStubs then
    [(s.data.child "stubs".toList).child "overrides.php".toList]
  else []

/-- Loads the corpora unless hooks are known already. -/
def loadCorpus (s : Session) (fs : FileSystem) : Session × Except RunFault Nat :=
  match s.corpora fs with
  | .error cause => (s, .error cause)
  | .ok corpora =>
      let loaded := Corpus.loadAll corpora s.registry
      ({ s with registry := loaded.registry }.note loaded.events,
        match loaded.fault with
        | some cause => .error cause
        | none => .ok loaded.count)

/-- A session over a registry, with its corpora loaded. -/
def start (data : Path) (settings : Settings) (registry : Registry) (issues : IssueBuffer)
    (fs : FileSystem) : Session × Except RunFault Unit :=
  let (s, count) := (Session.mk data settings registry issues []).loadCorpus fs
  (s, count.map fun _ => ())

/-- Registers a hook; only a new name is an event. -/
def register (s : Session) (name : Text) (kind : HookKind) (types : List UnionType) : Session :=
  { s with registry := (s.registry.register name kind (types.map some)).1 }.note
    (Corpus.registrationEvents s.registry name kind types.length)

/-- Registers the hooks that a source documents, and tells how many they are. -/
def beforeFile (s : Session) (source : Source) : Session × Except RunFault Nat :=
  match DocComments.collect source.visits with
  | (events, .error cause) => (s.note events, .error (.ofReading cause))
  | (events, .ok hooks) =>
      let s := hooks.foldl (fun s hook => s.register hook.name hook.kind hook.types) (s.note events)
      (if hooks.isEmpty then s else s.note [.recovered hooks.length source.path], .ok hooks.length)

def afterInvocation {ε : Type} (s : Session) (typeOf : ε → Option UnionType) (call : Call ε) :
    Session × Option Signature :=
  let (registry, signature, events) := CallSites.infer typeOf s.registry call
  ({ s with registry }.note events, signature)

/-- The parameters of a call that registers a callback. The corpora are loaded again if no hook is
known. -/
def registrationParams {ε : Type} (s : Session) (fs : FileSystem) (suppressed : List Text)
    (call : Call ε) : Session × Except RunFault (Option (List Parameter)) :=
  match s.loadCorpus fs with
  | (s, .error cause) => (s, .error cause)
  | (s, .ok _) =>
      let (issues, parameters, events) := Registration.check s.registry s.issues suppressed call
      ({ s with issues }.note events, .ok parameters)

def followCalls (fs : FileSystem) (source : Source) :
    Session → List (Call Node) → Session × Except RunFault Unit
  | s, [] => (s, .ok ())
  | s, call :: rest =>
      if (FunctionName.invocation? call.function).isSome then
        followCalls fs source (s.afterInvocation source.evidentType? call).1 rest
      else if (FunctionName.registration? call.function).isSome then
        match s.registrationParams fs [] call with
        | (s, .error cause) => (s, .error cause)
        | (s, .ok _) => followCalls fs source s rest
      else followCalls fs source s rest

def analyze (s : Session) (fs : FileSystem) (source : Source) :
    Session × Except RunFault Unit :=
  match s.beforeFile source with
  | (s, .error cause) => (s, .error cause)
  | (s, .ok _) => followCalls fs source s source.calls

/-- The source in a file. One that no parser has read is an empty program. -/
def sourceAt (fs : FileSystem) (p : Path) : Except ReadFault Source :=
  (fs.read p).map fun content =>
    let empty : Node := ⟨"program".toList, 0, content.bytes.length, true, none, []⟩
    ⟨p.text, content.bytes, content.tree.getD empty⟩

/-- Analyses files one after the other; one that cannot be read is skipped. -/
def analyzeFiles (fs : FileSystem) : Session → List Path → Session × Except RunFault Unit
  | s, [] => (s, .ok ())
  | s, p :: rest =>
      match sourceAt fs p with
      | .error cause => analyzeFiles fs (s.note [.sourceSkipped p.text cause]) rest
      | .ok source =>
          match s.analyze fs source with
          | (s, .error cause) => (s, .error cause)
          | (s, .ok _) => analyzeFiles fs s rest

/-- Analyses the PHP files that paths stand for. A path is looked at when those before it are
done. -/
def analyzePaths (fs : FileSystem) : Session → List Path → Session × Except RunFault Unit
  | s, [] => (s, .ok ())
  | s, p :: rest =>
      match fs.phpFilesAt p with
      | .error cause => (s, .error (.unreadable cause))
      | .ok files =>
          match analyzeFiles fs s files with
          | (s, .error cause) => (s, .error cause)
          | (s, .ok _) => analyzePaths fs s rest

end Session
end PhpHooks
