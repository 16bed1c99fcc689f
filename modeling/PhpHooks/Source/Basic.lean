import PhpHooks.Location
import PhpHooks.Source.Node
import PhpHooks.Text.Utf8

set_option autoImplicit false

/-!
Sources with their syntax trees: the text and the place of a node.
-/
namespace PhpHooks

structure Source where
  path : Text
  bytes : Bytes
  root : Node

namespace Source

def slice (source : Source) (node : Node) : Bytes :=
  (source.bytes.drop node.start).take (node.stop - node.start)

/-- The text that a node covers, without bytes that are no text. -/
def textOf (source : Source) (node : Node) : Text :=
  Utf8.decodeLenient (source.slice node)

/-- The line and the column of a byte offset, both from zero; columns count bytes. -/
def position (bytes : Bytes) (offset : Nat) : Nat × Nat :=
  let before := bytes.take offset
  let inLine := (before.reverse.takeWhile (· != 10)).length
  (before.count 10, offset - before.length + inLine)

def locationOf (source : Source) (node : Node) : Location :=
  let (line, column) := position source.bytes node.start
  ⟨source.path, line + 1, column + 1⟩

end Source
end PhpHooks
