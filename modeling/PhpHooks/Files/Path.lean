import PhpHooks.Text.Basic

set_option autoImplicit false

/-!
Paths as texts name them: a root and names below it. Empty names and single dots vanish, double
dots stay.
-/
namespace PhpHooks

/-- A path; `root` is empty, one slash or two. -/
structure Path where
  root : Text
  parts : List Text
  deriving DecidableEq, Repr

namespace Path

def pieces : Text → List Text
  | [] => [[]]
  | c :: rest =>
      if c == '/' then [] :: pieces rest
      else
        match pieces rest with
        | [] => [[c]]
        | piece :: others => (c :: piece) :: others

def names (t : Text) : List Text :=
  (pieces t).filter fun piece => !piece.isEmpty && piece != ['.']

/-- The names in the target of a link. Single dots stay, and stand for a slash at the end too: what
is in front of them has to be a folder. -/
def targetNames (t : Text) : List Text :=
  (pieces t).filter (!·.isEmpty) ++ (if t.getLast? == some '/' then [['.']] else [])

/-- The root of a text: two slashes are a root of their own, more are one. -/
def rootOf : Text → Text
  | '/' :: '/' :: '/' :: _ => ['/']
  | '/' :: '/' :: _ => ['/', '/']
  | '/' :: _ => ['/']
  | _ => []

def ofText (t : Text) : Path :=
  ⟨rootOf t, names t⟩

def isAbsolute (p : Path) : Bool :=
  !p.root.isEmpty

/-- The text of a path; the empty path is a single dot. -/
def text (p : Path) : Text :=
  if p.root.isEmpty && p.parts.isEmpty then ['.']
  else p.root ++ Text.joined ['/'] p.parts

def hasNull (p : Path) : Bool :=
  p.parts.any fun name => name.contains '\x00'

/-- The path in which each double dot takes back the name in front of it. -/
def plain (p : Path) : Path :=
  { p with
    parts := p.parts.foldl
      (fun parts name => if name == ['.', '.'] then parts.dropLast else parts ++ [name]) [] }

/-- The text of a path with more behind it. What begins with a slash stands for itself. -/
def joinText (t more : Text) : Text :=
  if more.head? == some '/' then more
  else if t.getLast? == some '/' then t ++ more
  else t ++ '/' :: more

/-- `q` seen from `p`. -/
def append (p q : Path) : Path :=
  if q.isAbsolute then q else { p with parts := p.parts ++ q.parts }

def child (p : Path) (name : Text) : Path :=
  { p with parts := p.parts ++ [name] }

def parent (p : Path) : Path :=
  { p with parts := p.parts.dropLast }

def name (p : Path) : Text :=
  p.parts.getLast?.getD []

end Path
end PhpHooks
