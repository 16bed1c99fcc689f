import PhpHooks.Source.Call

set_option autoImplicit false

/-!
The walk through a syntax tree. Every named node is visited before its children, from left to
right, with the documentation comment in front of it. A comment belongs to the next node beside
it and to everything below that node that begins at the same byte.
-/
namespace PhpHooks

/-- What a node means for pairing comments with calls. -/
inductive NodeTag where
  | call
  | returning
  | variableName
  | output
  | other
  deriving DecidableEq, Repr

namespace NodeTag

def name : NodeTag → Text
  | .call => "call".toList
  | .returning => "return".toList
  | .variableName => "variable".toList
  | .output => "echo".toList
  | .other => "other".toList

def all : List NodeTag := [.call, .returning, .variableName, .output, .other]

def ofName? (t : Text) : Option NodeTag :=
  all.find? fun tag => tag.name == t

def ofNode (node : Node) : NodeTag :=
  if node.isA "function_call_expression" then .call
  else if node.isA "return_statement" then .returning
  else if node.isA "variable_name" then .variableName
  else if node.isOneOf ["echo_statement", "print_intrinsic"] then .output
  else .other

end NodeTag

structure Visit (ε : Type) where
  tag : NodeTag
  type : Text
  place : Option Location
  doc : Option Text
  call : Option (Call ε)

namespace Source

/-- Nodes whose children are bare tokens; the walk does not go below them. -/
def isLeaf (node : Node) : Bool :=
  node.isOneOf ["variable_name", "name", "qualified_name", "string", "encapsed_string", "heredoc",
    "nowdoc", "integer", "float", "boolean", "null"]

/-- Nodes that the walk goes through without a visit, so that parentheses keep the comment of what
they enclose. -/
def isTransparent (node : Node) : Bool :=
  node.isA "parenthesized_expression"

/-- A comment's text if it is a documentation comment. -/
def docText? (source : Source) (comment : Node) : Option Text :=
  let text := source.textOf comment
  if Text.startsWith text ['/', '*', '*'] then some text else none

/-- The children of `parent` to be visited, each with its documentation comment: the last one in
front of it, or else `doc`, the one of the parent, if both begin at the same byte. -/
def documented (source : Source) (parent : Node) (doc : Option Text) :
    Option Text → List Node → List (Node × Option Text)
  | _, [] => []
  | pending, child :: rest =>
      if !child.named then documented source parent doc pending rest
      else if child.isA "comment" then
        documented source parent doc ((source.docText? child).or pending) rest
      else
        let own := pending.or (if child.start == parent.start then doc else none)
        (child, own) :: documented source parent doc none rest

/-- The nodes still to come below a visited node. -/
def below (source : Source) (node : Node) (doc : Option Text) : List (Node × Option Text) :=
  if isLeaf node then [] else source.documented node doc none node.children

/-- The nodes visited from a stack of nodes, the next one on top. Every step takes one node off, so
the number of nodes bounds the steps. -/
def walk (source : Source) : Nat → List (Node × Option Text) → List (Node × Option Text)
  | _, [] => []
  | 0, _ :: _ => []
  | bound + 1, (node, doc) :: stack =>
      let rest := walk source bound (source.below node doc ++ stack)
      if isTransparent node then rest else (node, doc) :: rest

def visit (source : Source) (node : Node) (doc : Option Text) : Visit Node :=
  let tag := NodeTag.ofNode node
  { tag
    type := node.type
    place := some (source.locationOf node)
    doc
    call := if tag = .call then some (source.callOf node) else none }

def visits (source : Source) : List (Visit Node) :=
  (source.walk source.root.size [(source.root, none)]).map fun (node, doc) => source.visit node doc

def calls (source : Source) : List (Call Node) :=
  source.visits.filterMap Visit.call

end Source
end PhpHooks
