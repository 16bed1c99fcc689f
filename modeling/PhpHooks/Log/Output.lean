import PhpHooks.Log.Event
import PhpHooks.Log.Template

set_option autoImplicit false

/-!
Where log records go: to the console, and to a file if one is given.
-/
namespace PhpHooks

/-- A line for the log: the full name of its component, its level and its message. -/
structure Record where
  name : Text
  level : Level
  message : Text
  deriving DecidableEq, Repr

namespace Record

/-- The name that all components are below. -/
def tool : Text := "hookcheck".toList

/-- The full name of a component; without one it is the tool's. -/
def fullName (component : Option Text) : Text :=
  match component with
  | none | some [] => tool
  | some component => tool ++ '.' :: component

def ofEvent (event : Event) : Record :=
  ⟨fullName (some event.component), event.level, event.message⟩

/-- The component that a full name stands for; nothing for names outside the tool. -/
def component (name : Text) : Text :=
  if Text.startsWith name (tool ++ ['.']) then name.drop (tool.length + 1) else []

def tag (name : Text) : Text :=
  let component := component name
  '[' :: tool ++ (if component.isEmpty then [] else ':' :: component) ++ [']']

def console (r : Record) : Text :=
  tag r.name ++ ' ' :: r.level.name ++ ' ' :: r.message

/-- The line in a file behind its time. -/
def filed (r : Record) : Text :=
  r.level.name ++ ' ' :: r.name ++ ':' :: ' ' :: r.message

/-- A message as it stands without arguments, and filled in with them. -/
def expand (message : Text) (arguments : List LogValue) : Except TemplateFault Text :=
  if arguments.isEmpty then .ok message else Template.fill message arguments

end Record

structure LogSetup where
  verbose : Bool
  toFile : Bool
  deriving DecidableEq, Repr

namespace LogSetup

/-- Everything is logged if the run is verbose, and warnings and worse otherwise. -/
def threshold (setup : LogSetup) : Level :=
  if setup.verbose then .debug else .warning

def accepts (setup : LogSetup) (r : Record) : Bool :=
  setup.threshold.rank ≤ r.level.rank

def handlers (setup : LogSetup) : Nat :=
  if setup.toFile then 2 else 1

def consoleText (setup : LogSetup) (records : List Record) : Text :=
  (records.filter setup.accepts).flatMap fun r => r.console ++ ['\n']

/-- What records write to the file, with `time` in front of each. -/
def fileText (setup : LogSetup) (time : Text) (records : List Record) : Text :=
  (records.filter setup.accepts).flatMap fun r => time ++ ' ' :: r.filed ++ ['\n']

end LogSetup
end PhpHooks
