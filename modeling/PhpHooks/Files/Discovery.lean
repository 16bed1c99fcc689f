import PhpHooks.Files.Tree
import PhpHooks.Text.Lowercase

set_option autoImplicit false

/-!
The PHP files below folders: of each folder first its own files by name, then those of its
subfolders by name. Linked folders and folders of tools are left out.
-/
namespace PhpHooks.FileSystem

/-- Folders that hold no sources of the project itself. -/
def isExcluded (name : Text) : Bool :=
  [".git", ".hg", ".svn", "node_modules", "vendor", ".idea"].any fun folder =>
    folder.toList == name

def isPhpName (name : Text) : Bool :=
  Text.endsWith (Text.lower name) ".php".toList

def leadsToFolder (fs : FileSystem) (folder : Place) : FileNode → Bool
  | .folder _ => true
  | .file _ => false
  | .link target =>
      match follow fs.top (maxLinks - 1) (linkStart folder target)
        (Path.targetNames target) with
      | .error _ => false
      | .ok place =>
          match fs.top.at? place with
          | some (.folder _) => true
          | _ => false

def byName {α : Type} (entries : List (Text × α)) : List (Text × α) :=
  entries.mergeSort fun a b => Text.le a.1 b.1

def ownFiles (fs : FileSystem) (shown : Path) (place : Place) (entries : List (Text × FileNode)) :
    List Path :=
  let files := entries.filter fun (name, node) =>
    isPhpName name && !fs.leadsToFolder place node
  (byName files).map fun (name, _) => shown.child name

mutual

/-- The PHP files in and below a folder at `place`, with paths that begin with `shown`. The walk is
taken to list the entries of every folder that it comes to: unlike `find` it sets no limit to the
length of a path. -/
def phpFilesBelow (fs : FileSystem) (shown : Path) (place : Place) : FileNode → List Path
  | .folder entries =>
      fs.ownFiles shown place entries ++
        (byName (folderFiles fs shown place entries)).flatMap Prod.snd
  | .file _ => []
  | .link _ => []
termination_by structural node => node

/-- The PHP files below each subfolder that is not excluded, with its name. -/
def folderFiles (fs : FileSystem) (shown : Path) (place : Place) :
    List (Text × FileNode) → List (Text × List Path)
  | [] => []
  | (name, node) :: rest =>
      if isExcluded name then folderFiles fs shown place rest
      else
        (name, phpFilesBelow fs (shown.child name) (place ++ [name]) node) ::
          folderFiles fs shown place rest
termination_by structural entries => entries

end

/-- The PHP files that a path stands for: a file itself, whatever its name, or those below a
folder. -/
def phpFilesAt (fs : FileSystem) (p : Path) : Except ReadFault (List Path) :=
  match fs.find p with
  | .ok (_, .file _) => .ok [p]
  | .ok (place, node) => .ok (fs.phpFilesBelow p place node)
  | .error .nameTooLong => .error .nameTooLong
  | .error _ => .ok []

def phpFiles (fs : FileSystem) (paths : List Path) : Except ReadFault (List Path) :=
  (paths.mapM fs.phpFilesAt).map List.flatten

end PhpHooks.FileSystem
