import PhpHooks.CommandLine.Run
import PhpHooks.Json.Reader
import PhpHooks.Source.TreeFormat

set_option autoImplicit false

/-!
The command line. The files below the working folder are taken in at the start. The syntax tree of
a source `a.php` is expected beside it in `a.php.tree.json`.
-/
namespace PhpHooks.Main

def usage : Text :=
  "usage: hookcheck [-h] [-v] [--log-file FILE] check [PATH ...]".toList ++
    " [--config PATH] [--suppress NAME]\n".toList ++
    "       hookcheck [-h] [-v] [--log-file FILE] hooks [PATH ...]".toList ++
    " [--config PATH] [--json]\n".toList

def maxDepth : Nat := 64

/-- The syntax tree in the file beside a source, if there is one. -/
def readTree (path : Text) : IO (Option Node) := do
  try
    let bytes ← IO.FS.readBinFile (String.ofList (path ++ ".tree.json".toList))
    let text := (Utf8.decode? bytes.toList).getD []
    match JsonValue.parse text with
    | .ok value => return some (Node.ofJson value)
    | .error _ => return none
  catch _ => return none

/-- A name that no file has. -/
def nowhere : Text := [Char.ofNat 0]

/-- What lies at an absolute path. A link is taken as one to the place where it leads in the end. -/
def snapshot : Nat → Text → IO FileNode
  | 0, _ => return .folder []
  | depth + 1, path => do
      let real ← IO.FS.realPath (String.ofList path)
      if real.toString.toList != path then return .link real.toString.toList
      else if ← real.isDir then
        let entries ← (← real.readDir).toList.mapM fun entry => do
          let name := entry.fileName.toList
          try
            let node ← snapshot depth (path ++ '/' :: name)
            return (name, node)
          catch _ => return (name, .link nowhere)
        return .folder entries
      else
        let bytes ← IO.FS.readBinFile real
        let tree ← readTree path
        return .file ⟨bytes.toList, tree⟩

/-- The home folder of a user from a line of the users' file: the first and the sixth of its parts
between colons. -/
def homeOf? (line : Text) : Option (Text × Path) :=
  match Yaml.colonPieces line with
  | user :: _ :: _ :: _ :: _ :: home :: _ => some (user, Path.ofText home)
  | _ => none

def userHomes : IO (List (Text × Path)) := do
  try
    let bytes ← IO.FS.readBinFile "/etc/passwd"
    return (Text.lines (Utf8.decodeLenient bytes.toList)).filterMap homeOf?
  catch _ => return []

def workingFiles : IO FileSystem := do
  let here := (← IO.FS.realPath (← IO.currentDir)).toString.toList
  let place := (Path.ofText here).parts
  let node ← snapshot maxDepth here
  return ⟨(FileNode.folder []).insert node place, place, ← userHomes⟩

def writeLog (files : FileSystem) (logFile : Option Text) : IO Unit := do
  match logFile with
  | none => return
  | some file =>
      match files.read (Path.ofText file) with
      | .ok content => IO.FS.writeBinFile (String.ofList file) ⟨content.bytes.toArray⟩
      | .error _ => return

/-- The time in front of log lines: milliseconds of the system's clock. -/
def clock : IO Text := do
  return Text.ofNat (← IO.monoMsNow)

def faultText : RunFault → Text
  | .unreadable cause => cause.label
  | .noValue => "a switch has no value".toList
  | .exhausted => "a type nests too deep".toList
  | fault => fault.message?.getD "a number is too large".toList

def run (args : List Text) : IO UInt32 := do
  let out ← IO.getStdout
  let err ← IO.getStderr
  match CommandLine.read args with
  | .error .help =>
      out.putStr (String.ofList usage)
      return 0
  | .error .misuse =>
      err.putStr (String.ofList usage)
      return 2
  | .ok options =>
      let data := Path.ofText (← IO.appDir).toString.toList
      let outcome := CommandLine.run data (← clock) (← workingFiles) options
      writeLog outcome.files options.logFile
      err.putStr (String.ofList outcome.errors)
      out.putStr (String.ofList outcome.output)
      match outcome.status with
      | .ok status => return UInt32.ofNat status
      | .error fault =>
          err.putStrLn (String.ofList (faultText fault))
          return 1

end PhpHooks.Main

def main (args : List String) : IO UInt32 :=
  PhpHooks.Main.run (args.map String.toList)
