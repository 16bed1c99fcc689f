import PhpHooks.Files.Tree
import PhpHooks.RunFault

set_option autoImplicit false

/-!
Paths without links and double dots, whether there is anything at them or not, and writing to the
places where paths lead. Each link is followed once; a link that leads back to itself is left as it
stands, with everything behind it.
-/
namespace PhpHooks.FileSystem

/-- Where names lead: to a place, or into a circle, to a path as a text. -/
inductive Trail where
  | clear (place : Place)
  | circle (path : Text)

/-- The links met so far, each with the place that it leads to, or with none while it is being
followed. -/
abbrev Known := List (Place × Option Place)

/-- Follows names from a place. `lead` follows the target of a link that has not been met, which
starts from a folder. -/
def pass (lead : Known → Place → Text → Known × Trail) (top : FileNode) :
    Known → Place → List Text → Known × Trail
  | known, place, [] => (known, .clear place)
  | known, place, name :: rest =>
      let behind := Text.joined ['/'] rest
      let here := place ++ [name]
      if name.isEmpty || name == ['.'] then pass lead top known place rest
      else if name == ['.', '.'] then pass lead top known place.dropLast rest
      else
        match top.at? here, known.lookup here with
        | some (.link _), some (some there) => pass lead top known there rest
        | some (.link _), some none =>
            (known, .circle (Path.joinText (absolute here).text behind))
        | some (.link target), none =>
            match lead ((here, none) :: known) place target with
            | (known, .clear there) => pass lead top ((here, some there) :: known) there rest
            | (known, .circle path) => (known, .circle (Path.joinText path behind))
        | _, _ => pass lead top known here rest

/-- Follows the target of a link, through at most so many links that have not been met. -/
def lead (top : FileNode) : Nat → Known → Place → Text → Known × Trail
  | 0, known, folder, _ => (known, .clear folder)
  | links + 1, known, folder, target =>
      pass (lead top links) top known (linkStart folder target) (Path.pieces target)

/-- Where a path leads. No more links can be met than there are. -/
def trail (fs : FileSystem) (p : Path) : Trail :=
  (pass (lead fs.top fs.top.links) fs.top [] (fs.start p) p.parts).2

/-- The absolute path of what a path names, without links and double dots. It has to be possible to
look there without being led in a circle. -/
def resolve (fs : FileSystem) (p : Path) : Except RunFault Path :=
  if p.hasNull then .error (.unreadable .nullByte)
  else
    let path :=
      match fs.trail p with
      | .clear place => absolute place
      | .circle text => (Path.ofText text).plain
    match fs.find path with
    | .error .tooManyLinks => .error (.linkCircle path)
    | _ => .ok path

def place? (fs : FileSystem) (p : Path) : Option Place :=
  match fs.trail p with
  | .clear place => some place
  | .circle _ => none

def write (fs : FileSystem) (p : Path) (node : FileNode) : FileSystem :=
  match fs.place? p with
  | some place => { fs with top := fs.top.insert node place }
  | none => fs

def writeLink (fs : FileSystem) (p : Path) (target : Text) : FileSystem :=
  match fs.place? p.parent with
  | some place => { fs with top := fs.top.insert (.link target) (place ++ [p.name]) }
  | none => fs

/-- The absolute path in which each double dot takes back the name in front of it. -/
def plainPath (fs : FileSystem) (p : Path) : Path :=
  (absolute (fs.start p ++ p.parts)).plain

/-- Where a file at a path would be written: behind the links there, in a folder that exists. -/
def target (fs : FileSystem) (p : Path) : Except ReadFault Place :=
  match fs.find p with
  | .ok (_, .folder _) => .error .isFolder
  | .ok (place, _) => .ok place
  | .error .missing =>
      match fs.find p.parent, fs.place? p with
      | .ok _, some place =>
          match fs.find (absolute place.dropLast) with
          | .ok _ => .ok place
          | .error cause => .error cause
      | .error cause, _ => .error cause
      | _, none => .error .tooManyLinks
  | .error cause => .error cause

/-- The tree with bytes at the end of a file, which is made if it is not there. -/
def appendTo (fs : FileSystem) (p : Path) (bytes : Bytes) : Except ReadFault FileSystem :=
  (fs.target (fs.plainPath p)).map fun place =>
    let old : FileContent :=
      match fs.top.at? place with
      | some (.file content) => content
      | _ => ⟨[], none⟩
    { fs with top := fs.top.insert (.file { old with bytes := old.bytes ++ bytes }) place }

end PhpHooks.FileSystem
