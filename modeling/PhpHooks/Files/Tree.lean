import PhpHooks.Files.Path
import PhpHooks.Log.Event
import PhpHooks.Source.Node
import PhpHooks.Text.Utf8

set_option autoImplicit false

/-!
File trees with links, and what lies at a path.
-/
namespace PhpHooks

/-- The content of a file, with the syntax tree of it that a parser gave, if one did. -/
structure FileContent where
  bytes : Bytes
  tree : Option Node

inductive FileNode where
  | file (content : FileContent)
  | folder (entries : List (Text × FileNode))
  | link (target : Text)

namespace FileNode

/-- The node at a place below, without following links. -/
def at? (node : FileNode) : List Text → Option FileNode
  | [] => some node
  | name :: rest =>
      match node with
      | .folder entries => (entries.lookup name).bind fun below => at? below rest
      | _ => none

/-- The entries with `node` under `name`: in its place if the name is there, else at the end. -/
def put (name : Text) (node : FileNode) : List (Text × FileNode) → List (Text × FileNode)
  | [] => [(name, node)]
  | (other, old) :: rest =>
      if other == name then (name, node) :: rest else (other, old) :: put name node rest

/-- The tree with `node` at a place. Folders on the way are made where there are none. -/
def insert (tree node : FileNode) : List Text → FileNode
  | [] => node
  | name :: rest =>
      match tree with
      | .folder entries =>
          let old := (entries.lookup name).getD (.folder [])
          .folder (put name (old.insert node rest) entries)
      | _ => .folder [(name, insert (.folder []) node rest)]

mutual

def links : FileNode → Nat
  | .file _ => 0
  | .folder entries => entryLinks entries
  | .link _ => 1
termination_by structural node => node

def entryLinks : List (Text × FileNode) → Nat
  | [] => 0
  | (_, node) :: rest => node.links + entryLinks rest
termination_by structural entries => entries

end

end FileNode

/-- Names from the top of a file tree down. -/
abbrev Place := List Text

/-- A file tree with the folder that relative paths start from, which is the home folder too, and
the home folders of users by their names. -/
structure FileSystem where
  top : FileNode
  current : Place
  homes : List (Text × Path)

namespace FileSystem

def maxNameBytes : Nat := 255

/-- A path has to have fewer bytes than these. -/
def maxPathBytes : Nat := 4096

def byteLength (t : Text) : Nat :=
  (Utf8.encode t).length

/-- How far a path leads without following a link. -/
inductive Stretch where
  | arrived (place : Place)
  | linked (folder : Place) (target : Text) (rest : List Text)
  | failed (cause : ReadFault)

/-- Follows names from a folder up to the first link. A single dot stays in the folder, double dots
lead to the folder above. -/
def stretch (top : FileNode) : Place → List Text → Stretch
  | place, [] => .arrived place
  | place, name :: rest =>
      match top.at? place with
      | some (.folder entries) =>
          if name == ['.'] then stretch top place rest
          else if name == ['.', '.'] then stretch top place.dropLast rest
          else if maxNameBytes < byteLength name then .failed .nameTooLong
          else
            match entries.lookup name with
            | none => .failed .missing
            | some (.link target) => .linked place target rest
            | some _ => stretch top (place ++ [name]) rest
      | some _ => .failed .notFolder
      | none => .failed .missing

def maxLinks : Nat := 40

def linkStart (folder : Place) (target : Text) : Place :=
  if (Path.rootOf target).isEmpty then folder else []

/-- Follows names from a folder, through at most so many links. -/
def follow (top : FileNode) : Nat → Place → List Text → Except ReadFault Place
  | links, place, names =>
      match stretch top place names, links with
      | .arrived place, _ => .ok place
      | .failed cause, _ => .error cause
      | .linked _ _ _, 0 => .error .tooManyLinks
      | .linked folder target rest, links + 1 =>
          follow top links (linkStart folder target) (Path.targetNames target ++ rest)

def start (fs : FileSystem) (p : Path) : Place :=
  if p.isAbsolute then [] else fs.current

/-- The node that a path leads to, with its place. -/
def find (fs : FileSystem) (p : Path) : Except ReadFault (Place × FileNode) :=
  if p.hasNull then .error .nullByte
  else if maxPathBytes ≤ byteLength p.text then .error .nameTooLong
  else
    match follow fs.top maxLinks (fs.start p) p.parts with
    | .error cause => .error cause
    | .ok place =>
        match fs.top.at? place with
        | some node => .ok (place, node)
        | none => .error .missing

/-- Whether something of a kind lies at a path. A name that is too long cannot be asked about. -/
def holds (fs : FileSystem) (p : Path) (kind : FileNode → Bool) : Except ReadFault Bool :=
  match fs.find p with
  | .ok (_, node) => .ok (kind node)
  | .error .nameTooLong => .error .nameTooLong
  | .error _ => .ok false

def isFile (fs : FileSystem) (p : Path) : Except ReadFault Bool :=
  fs.holds p fun
    | .file _ => true
    | _ => false

def isFolder (fs : FileSystem) (p : Path) : Except ReadFault Bool :=
  fs.holds p fun
    | .folder _ => true
    | _ => false

def present (fs : FileSystem) (p : Path) : Except ReadFault Bool :=
  fs.holds p fun _ => true

def read (fs : FileSystem) (p : Path) : Except ReadFault FileContent :=
  match fs.find p with
  | .error cause => .error cause
  | .ok (_, .file content) => .ok content
  | .ok _ => .error .isFolder

def list (fs : FileSystem) (p : Path) : Except ReadFault (List Text) :=
  match fs.find p with
  | .error cause => .error cause
  | .ok (_, .folder entries) => .ok (entries.map Prod.fst)
  | .ok _ => .error .notFolder

def absolute (place : Place) : Path :=
  ⟨['/'], place⟩

end FileSystem
end PhpHooks
