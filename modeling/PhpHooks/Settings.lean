import PhpHooks.Files.Discovery
import PhpHooks.Files.Resolution
import PhpHooks.Text.Blank
import PhpHooks.Yaml.Reader

set_option autoImplicit false

/-!
Settings of a project: which hooks come with it, where more are described, and which diagnostics
are not wanted.
-/
namespace PhpHooks

/-- Where hooks are described: in a file, or in the corpus files of a folder and, if wanted, of its
subfolders. -/
inductive HookSource where
  | file (path : Path)
  | folder (path : Path) (recursive : Bool)
  deriving DecidableEq, Repr

structure Settings where
  root : Path
  useDefaultStubs : Bool
  useDefaultHooks : Bool
  hooks : List HookSource
  suppressIssues : List Text
  deriving DecidableEq, Repr

inductive SettingsError where
  | unparseable (file : Text)
  | notMapping
  | hooksNotList
  | missingFile (path : Path)
  | missingFolder (path : Path)
  | noLocation (entry : Text)
  | emptyPath

/-- Why settings cannot be loaded: they are wrong, or they cannot be had at all. -/
inductive SettingsFault where
  | invalid (error : SettingsError)
  | failed (cause : RunFault)

namespace SettingsError

/-- The message about an error. A file's name is cut at a colon. -/
def message : SettingsError → Text
  | .unparseable file => "Failed to parse ".toList ++ file.takeWhile (· != ':')
  | .notMapping => ".hookcheck.yml must contain a mapping at the root".toList
  | .hooksNotList => "'hooks' must be a list of file or directory entries".toList
  | .missingFile path => "Hook file \"".toList ++ path.text ++ "\" does not exist".toList
  | .missingFolder path => "Hook directory \"".toList ++ path.text ++ "\" does not exist".toList
  | .noLocation entry => "Hook source must declare 'file' or 'directory': ".toList ++ entry
  | .emptyPath => "Hook source path must be a non-empty string".toList

end SettingsError

namespace Settings

def fileName : Text := ".hookcheck.yml".toList

def corpusNames : List Text := ["actions.json".toList, "filters.json".toList]

/-- The settings of a folder without a settings file. -/
def default (root : Path) : Settings :=
  { root, useDefaultStubs := true, useDefaultHooks := true, hooks := [], suppressIssues := [] }

/-- A flag is off if it is false or says so, on if it is anything else, and `missing` if it is not
there. -/
def flag (value : Option Yaml) (missing : Bool) : Bool :=
  match value with
  | none | some .null => missing
  | some (.bool false) => false
  | some (.string glyphs) => Text.lower (Text.trim (Glyph.text glyphs)) != "false".toList
  | some _ => true

def fromFiles {α : Type} (result : Except ReadFault α) : Except SettingsFault α :=
  result.mapError fun cause => .failed (.unreadable cause)

def fromNumbers {α : Type} (result : Except Numeral.Overflow α) : Except SettingsFault α :=
  result.mapError fun cause => .failed (.overflow cause)

/-- A path whose first name is a tilde begins at the home folder, or at that of the user whose name
follows the tilde. -/
def expandHome (fs : FileSystem) (p : Path) : Except SettingsFault Path :=
  if p.isAbsolute then .ok p
  else
    match p.parts with
    | ('~' :: user) :: rest =>
        if user.contains '\x00' then .error (.failed (.unreadable .nullByte))
        else
          let home? := if user.isEmpty then some (FileSystem.absolute fs.current)
            else fs.homes.lookup user
          match home? with
          | some home => .ok { home with parts := home.parts ++ rest }
          | none => .error (.failed .unknownHome)
    | _ => .ok p

/-- A path that an entry gives, seen from the folder of the settings, and whether it may exist: no
name of a file holds half of a surrogate pair. -/
def sourcePath (fs : FileSystem) (root : Path) (value : Yaml) :
    Except SettingsFault (Path × Bool) := do
  match ← fromNumbers value.glyphs? with
  | none | some [] => .error (.invalid .emptyPath)
  | some glyphs =>
      let path ← expandHome fs (Path.ofText (Glyph.text glyphs))
      return (root.append path, !glyphs.any Glyph.isHalf)

/-- The source that an entry declares. A file comes before a folder. -/
def hookSource (fs : FileSystem) (root : Path) (entry : Yaml) : Except SettingsFault HookSource :=
  let fields :=
    match entry with
    | .mapping fields => fields
    | _ => []
  match Yaml.field? "file" fields, Yaml.field? "directory" fields with
  | some file, _ => do
      let (path, possible) ← sourcePath fs root file
      let found ← if possible then fromFiles (fs.isFile path) else Except.ok false
      if found then return .file path else .error (.invalid (.missingFile path))
  | none, some folder => do
      let (path, possible) ← sourcePath fs root folder
      let found ← if possible then fromFiles (fs.isFolder path) else Except.ok false
      if found then return .folder path (flag (Yaml.field? "recursive" fields) false)
      else .error (.invalid (.missingFolder path))
  | none, none => do
      let text ← fromNumbers entry.text
      .error (.invalid (.noLocation text))

def hookSources (fs : FileSystem) (root : Path) : List Yaml → Except SettingsFault (List HookSource)
  | [] => .ok []
  | entry :: rest => do
      let source ← hookSource fs root entry
      let others ← hookSources fs root rest
      return source :: others

/-- The diagnostics that are not wanted: a text or a list whose scalars count. -/
def suppressed : Option Yaml → Except SettingsFault (List Text)
  | some (.string glyphs) => .ok [Glyph.text glyphs]
  | some (.sequence elements) => do
      let texts ← fromNumbers (elements.mapM Yaml.glyphs?)
      return (texts.filterMap id).map Glyph.text
  | _ => .ok []

def ofYaml (fs : FileSystem) (root : Path) : Yaml → Except SettingsFault Settings
  | .mapping fields => do
      let hooks ←
        match Yaml.field? "hooks" fields with
        | none | some .null => Except.ok []
        | some (.sequence entries) => hookSources fs root entries
        | some _ => Except.error (.invalid .hooksNotList)
      let suppressIssues ← suppressed (Yaml.field? "suppressIssues" fields)
      return {
        root
        useDefaultStubs := flag (Yaml.field? "useDefaultStubs" fields) true
        useDefaultHooks := flag (Yaml.field? "useDefaultHooks" fields) true
        hooks
        suppressIssues }
  | _ => .error (.invalid .notMapping)

/-- The document in a settings file; what counts as nothing is an empty mapping. -/
def readDocument (file : Path) (bytes : Bytes) : Except SettingsFault Yaml :=
  match Utf8.decode? bytes with
  | none => .error (.failed (.unreadable .badEncoding))
  | some text =>
      if Text.allBlank text then .ok (.mapping [])
      else
        match Yaml.parse (Text.unifyNewlines text) with
        | .error .malformed => .error (.invalid (.unparseable file.name))
        | .error (.scalar cause) => .error (.failed (.scalar cause))
        | .ok value => .ok (if value.isEmpty then .mapping [] else value)

def resolved (fs : FileSystem) (p : Path) : Except SettingsFault Path :=
  (fs.resolve p).mapError .failed

/-- The settings file that a path stands for: the path itself, or the file in the folder that it
leads to. -/
def locate (fs : FileSystem) (p : Path) : Except SettingsFault Path := do
  let p ← expandHome fs p
  let isFolder ← fromFiles (fs.isFolder p)
  resolved fs (if isFolder then p.child fileName else p)

/-- Loads the settings that a path stands for. Without a file they are the default ones. -/
def load (fs : FileSystem) (p : Path) : Except SettingsFault Settings := do
  let file ← locate fs p
  let root ← resolved fs file.parent
  if ← fromFiles (fs.present file) then
    let content ← fromFiles (fs.read file)
    let document ← readDocument file content.bytes
    ofYaml fs root document
  else return default root

/-- The folders whose corpus files a folder stands for: with subfolders these come first,
by name. -/
def corpusFolders (fs : FileSystem) (path : Path) (recursive : Bool) :
    Except ReadFault (List Path) :=
  if recursive then do
    let names ← fs.list path
    let below := FileSystem.byName (names.map fun name => (name, path.child name))
    let subfolders ← below.filterM fun (_, child) => fs.isFolder child
    return subfolders.map Prod.snd ++ [path]
  else .ok [path]

def sourceFiles (fs : FileSystem) : HookSource → Except ReadFault (List Path)
  | .file path => .ok [path]
  | .folder path recursive => do
      let folders ← corpusFolders fs path recursive
      (folders.flatMap fun folder => corpusNames.map folder.child).filterM fs.isFile

def distinctPaths : List Path → List Path
  | [] => []
  | p :: rest => p :: (distinctPaths rest).filter (· != p)

/-- The corpus files of the project, in the order of their sources. -/
def hookFiles (settings : Settings) (fs : FileSystem) : Except ReadFault (List Path) :=
  (settings.hooks.mapM (sourceFiles fs)).map fun files => distinctPaths files.flatten

end Settings
end PhpHooks
