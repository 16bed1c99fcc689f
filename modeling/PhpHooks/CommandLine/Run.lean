import PhpHooks.CommandLine.Arguments
import PhpHooks.Json.Printer
import PhpHooks.Log.Output
import PhpHooks.Session
import PhpHooks.TypeExpr.Printer

set_option autoImplicit false

/-!
Runs of the tool: what they print and log, and their exit status.
-/
namespace PhpHooks.CommandLine

/-- What a run has logged and printed, its complaint about the settings, and its exit status,
unless a fault ended it. -/
structure Report where
  log : List Event
  output : Text
  complaint : Text
  status : Except RunFault Nat

def Report.ofFault (log : List Event) (fault : RunFault) : Report :=
  ⟨log, [], [], .error fault⟩

def diagnosticText (issues : IssueBuffer) : Text :=
  issues.kept.flatMap fun d => d.text ++ ['\n']

def registryText (r : Registry) : Text :=
  r.entries.flatMap fun (name, signature) =>
    signature.kind.name ++ ' ' :: name ++ '(' ::
      Text.joined [',', ' '] (signature.parameters.map UnionType.text) ++ [')', '\n']

def registryJson (r : Registry) : JsonValue :=
  .object <| r.entries.map fun (name, signature) =>
    (name, .object [("type".toList, .string signature.kind.name),
      ("params".toList, .array (signature.parameters.map fun u => .string u.text))])

/-- The report of a session whose paths have been analysed. A check with findings fails. -/
def report (s : Session) : Command → Report
  | .check _ =>
      ⟨s.log, diagnosticText s.issues, [], .ok (if s.issues.kept.isEmpty then 0 else 1)⟩
  | .hooks json =>
      let output :=
        if json then (registryJson s.registry).pretty ++ ['\n'] else registryText s.registry
      ⟨s.log, output, [], .ok 0⟩

/-- The settings with what the command line suppresses too, if each of these has a value. -/
def withCommand? (settings : Settings) : Command → Option Settings
  | .check suppress =>
      (suppress.mapM id).map fun also =>
        { settings with suppressIssues := settings.suppressIssues ++ also }
  | .hooks _ => some settings

def executeWith (data : Path) (fs : FileSystem) (options : Options) (settings : Settings) :
    Report :=
  match Session.start data settings .empty (.ofSuppressed settings.suppressIssues) fs with
  | (s, .error cause) => Report.ofFault s.log cause
  | (s, .ok _) =>
      match Session.analyzePaths fs s (options.paths.map Path.ofText) with
      | (s, .error cause) => Report.ofFault s.log cause
      | (s, .ok _) => report s options.command

/-- Runs a command; the tool's own data lies at `data`. Wrong settings end the run with status
two. -/
def execute (data : Path) (fs : FileSystem) (options : Options) : Report :=
  match options.config with
  | none => Report.ofFault [] .noValue
  | some config =>
      match Settings.load fs (Path.ofText config) with
      | .error (.failed fault) => Report.ofFault [] fault
      | .error (.invalid error) =>
          ⟨[], [], "hookcheck: ".toList ++ error.message ++ ['\n'], .ok 2⟩
      | .ok settings =>
          match withCommand? settings options.command with
          | none => Report.ofFault [] .noValue
          | some settings => executeWith data fs options settings

/-- The files after a run, what it wrote to the two streams, and its exit status. -/
structure Outcome where
  files : FileSystem
  output : Text
  errors : Text
  status : Except RunFault Nat

def logSetup (options : Options) : LogSetup :=
  ⟨options.verbose, options.logFile.isSome⟩

/-- Runs with the log file opened first, so that a run finds it among its files. Log lines begin
with `time`. -/
def run (data : Path) (time : Text) (fs : FileSystem) (options : Options) : Outcome :=
  let logTo (fs : FileSystem) (text : Text) : Except ReadFault FileSystem :=
    match options.logFile with
    | none => .ok fs
    | some file => fs.appendTo (Path.ofText file) (Utf8.encode text)
  match logTo fs [] with
  | .error cause => ⟨fs, [], [], .error (.unreadable cause)⟩
  | .ok opened =>
      let setup := logSetup options
      let report := execute data opened options
      let records := report.log.map Record.ofEvent
      { files := (logTo opened (setup.fileText time records)).toOption.getD opened
        output := report.output
        errors := setup.consoleText records ++ report.complaint
        status := report.status }

end PhpHooks.CommandLine
