import PhpHooks.Text.Basic

set_option autoImplicit false

/-!
Syntax trees of PHP sources, as a parser hands them over. Nothing is assumed about how a tree
fits its text.
-/
namespace PhpHooks

/-- A node with the grammar's name for it, the bytes it covers, whether it is named in the grammar
or a bare token, and its role in the node above it. -/
structure Node where
  type : Text
  start : Nat
  stop : Nat
  named : Bool
  field : Option Text
  children : List Node

namespace Node

def isA (node : Node) (name : String) : Bool :=
  node.type == name.toList

def isOneOf (node : Node) (names : List String) : Bool :=
  names.any node.isA

def namedChildren (node : Node) : List Node :=
  node.children.filter Node.named

/-- The named children that are not comments. -/
def parts (node : Node) : List Node :=
  node.namedChildren.filter fun child => !child.isA "comment"

def child? (node : Node) (role : String) : Option Node :=
  node.children.find? fun child => child.field == some role.toList

mutual

def size : Node → Nat
  | ⟨_, _, _, _, _, children⟩ => sizes children + 1
termination_by structural node => node

def sizes : List Node → Nat
  | [] => 0
  | node :: rest => node.size + sizes rest
termination_by structural nodes => nodes

end

end Node
end PhpHooks
