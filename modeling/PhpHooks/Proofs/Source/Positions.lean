import Mathlib.Data.List.Basic
import PhpHooks.Proofs.Source.PreOrder

set_option autoImplicit false

/-!
Positions in a syntax tree. A position is the list of the child indices on the way down to a node,
so equal nodes in different places stay apart. The walk goes through the positions in their
lexicographic order: one comes before everything below it, and a branch before those to its right.
-/
namespace PhpHooks

namespace Node

def nodeAt? (node : Node) : List Nat → Option Node
  | [] => some node
  | i :: path => node.children[i]?.bind fun child => child.nodeAt? path

/-- Whether the walk goes on to a child: it is no bare token and no comment. -/
def isPart (node : Node) : Bool :=
  node.named && !node.isA "comment"

/-- The way down to the position goes through parts and past no leaf, and the node there is not
transparent. -/
def Visited (node : Node) : List Nat → Prop
  | [] => Source.isTransparent node = false
  | i :: path => Source.isLeaf node = false ∧
      ∃ child, node.children[i]? = some child ∧ child.isPart = true ∧ child.Visited path

mutual

/-- The positions visited from a node on: its own unless it is transparent, then those below its
parts in order, unless it is a leaf. -/
def positions : Node → List (List Nat)
  | ⟨type, start, stop, named, field, children⟩ =>
      let node : Node := ⟨type, start, stop, named, field, children⟩
      (if Source.isTransparent node then [] else [[]]) ++
        (if Source.isLeaf node then [] else positionsFrom 0 children)
termination_by structural node => node

def positionsFrom : Nat → List Node → List (List Nat)
  | _, [] => []
  | i, child :: rest =>
      (if child.isPart then child.positions.map (i :: ·) else []) ++ positionsFrom (i + 1) rest
termination_by structural _ children => children

end

/-- The parts of a node, each with its index among all children. -/
def indexedParts (node : Node) : List (Node × Nat) :=
  node.children.zipIdx.filter fun entry => entry.1.isPart

theorem positionsFrom_eq (i : Nat) (children : List Node) : positionsFrom i children =
    ((children.zipIdx i).filter fun entry => entry.1.isPart).flatMap fun entry =>
      entry.1.positions.map (entry.2 :: ·) := by
  induction children generalizing i with
  | nil => rfl
  | cons child rest ih =>
      rw [positionsFrom, ih, List.zipIdx_cons, List.filter_cons]
      cases child.isPart with
      | false => simp
      | true => simp

theorem positions_eq (node : Node) : node.positions =
    (if Source.isTransparent node then [] else [[]]) ++
      (if Source.isLeaf node then []
        else node.indexedParts.flatMap fun entry => entry.1.positions.map (entry.2 :: ·)) := by
  rw [indexedParts, ← positionsFrom_eq]
  cases node
  rfl

theorem mem_indexedParts {node child : Node} {i : Nat} :
    (child, i) ∈ node.indexedParts ↔ node.children[i]? = some child ∧ child.isPart = true := by
  rw [indexedParts, List.mem_filter, List.mk_mem_zipIdx_iff_getElem?]

theorem map_fst_indexedParts (node : Node) : node.indexedParts.map Prod.fst = node.parts := by
  have same : (fun entry : Node × Nat => entry.1.isPart) = isPart ∘ Prod.fst := rfl
  rw [indexedParts, same, ← List.filter_map, List.zipIdx_map_fst, parts, namedChildren,
    List.filter_filter]
  congr 1
  funext child
  exact Bool.and_comm _ _

/-- What is shown for each position: first the node, then what is below its parts. -/
theorem map_positions {β : Type} (shown : List Nat → β) (node : Node) :
    node.positions.map shown =
      (if Source.isTransparent node then [] else [shown []]) ++
        (if Source.isLeaf node then []
          else node.indexedParts.flatMap fun entry =>
            entry.1.positions.map fun path => shown (entry.2 :: path)) := by
  rw [positions_eq, List.map_append]
  congr 1
  · split <;> rfl
  · split
    · rfl
    · simp only [List.map_flatMap, List.map_map, Function.comp_def]

theorem size_le_sizes {child : Node} {children : List Node} (inside : child ∈ children) :
    child.size ≤ sizes children := by
  induction children with
  | nil => cases inside
  | cons first rest ih =>
      rw [sizes]
      rcases List.mem_cons.mp inside with rfl | later
      · omega
      · have bound := ih later
        omega

theorem size_lt_of_mem {node child : Node} (inside : child ∈ node.children) :
    child.size < node.size := by
  have bound := size_le_sizes inside
  cases node
  rw [size]
  exact Nat.lt_succ_of_le bound

/-- What holds of a node when it holds of its children holds of every tree. -/
theorem induct {motive : Node → Prop}
    (step : ∀ node, (∀ child ∈ node.children, motive child) → motive node) (node : Node) :
    motive node := by
  induction size : node.size using Nat.strongRecOn generalizing node with
  | ind bound ih =>
      apply step
      intro child inside
      exact ih child.size (size ▸ size_lt_of_mem inside) child rfl

section Order

theorem mem_positions_cons {node : Node} {i : Nat} {path : List Nat} :
    i :: path ∈ node.positions ↔ Source.isLeaf node = false ∧
      ∃ child, node.children[i]? = some child ∧ child.isPart = true ∧ path ∈ child.positions := by
  rw [positions_eq, List.mem_append, List.mem_ite_nil_left, List.mem_ite_nil_left,
    List.mem_singleton, List.mem_flatMap, Bool.not_eq_true, Bool.not_eq_true]
  constructor
  · rintro (⟨-, own⟩ | ⟨inner, ⟨child, j⟩, listed, inside⟩)
    · cases own
    · obtain ⟨rest, visited, same⟩ := List.mem_map.mp inside
      obtain ⟨rfl, rfl⟩ := List.cons.inj same
      obtain ⟨found, part⟩ := mem_indexedParts.mp listed
      exact ⟨inner, child, found, part, visited⟩
  · rintro ⟨inner, child, found, part, visited⟩
    exact Or.inr ⟨inner, (child, i), mem_indexedParts.mpr ⟨found, part⟩,
      List.mem_map_of_mem visited⟩

theorem nil_mem_positions {node : Node} :
    [] ∈ node.positions ↔ Source.isTransparent node = false := by
  rw [positions_eq, List.mem_append, List.mem_ite_nil_left, List.mem_ite_nil_left,
    List.mem_singleton, List.mem_flatMap, Bool.not_eq_true]
  constructor
  · rintro (⟨solid, -⟩ | ⟨-, entry, -, inside⟩)
    · exact solid
    · simp at inside
  · intro solid
    exact Or.inl ⟨solid, rfl⟩

/-- The positions of the walk are those that can be reached and are not transparent. -/
theorem mem_positions_iff (node : Node) (path : List Nat) :
    path ∈ node.positions ↔ node.Visited path := by
  induction path generalizing node with
  | nil => exact nil_mem_positions
  | cons i path ih =>
      rw [mem_positions_cons, Visited]
      simp only [ih]

theorem pairwise_indexedParts (node : Node) :
    node.indexedParts.Pairwise fun first second => first.2 < second.2 := by
  apply List.Pairwise.filter
  have indices : (node.children.zipIdx.map Prod.snd).Pairwise (· < ·) := by
    rw [List.zipIdx_map_snd]
    exact List.pairwise_lt_range'
  exact List.pairwise_map.mp indices

/-- The walk goes through the positions in lexicographic order, so it comes to each only once. -/
theorem pairwise_positions (node : Node) : node.positions.Pairwise (· < ·) := by
  induction node using induct with
  | step node ih =>
      rw [positions_eq, List.pairwise_append]
      refine ⟨?_, ?_, ?_⟩
      · split <;> simp
      · split
        · exact List.Pairwise.nil
        · rw [List.pairwise_flatMap]
          constructor
          · rintro ⟨child, i⟩ listed
            have found := (mem_indexedParts.mp listed).1
            rw [List.pairwise_map]
            apply (ih child (List.mem_of_getElem? found)).imp
            intro first second before
            exact List.cons_lt_cons_iff.mpr (Or.inr ⟨rfl, before⟩)
          · apply (pairwise_indexedParts node).imp
            rintro ⟨first, i⟩ ⟨second, j⟩ before path left other right
            obtain ⟨rest, -, rfl⟩ := List.mem_map.mp left
            obtain ⟨more, -, rfl⟩ := List.mem_map.mp right
            exact List.cons_lt_cons_iff.mpr (Or.inl before)
      · intro path own other below
        rw [List.mem_ite_nil_left, List.mem_singleton] at own
        rw [List.mem_ite_nil_left, List.mem_flatMap] at below
        obtain ⟨-, entry, -, inside⟩ := below
        obtain ⟨rest, -, rfl⟩ := List.mem_map.mp inside
        rw [own.2]
        exact List.nil_lt_cons _ _

/-- The nodes at the positions are the nodes in pre-order. -/
theorem map_nodeAt?_positions (node : Node) :
    node.positions.map node.nodeAt? = node.preorder.map some := by
  induction node using induct with
  | step node ih =>
      have below : node.indexedParts.flatMap (fun entry =>
          entry.1.positions.map fun path => node.nodeAt? (entry.2 :: path)) =
          (node.parts.flatMap preorder).map some := by
        rw [← map_fst_indexedParts, List.flatMap_map, List.map_flatMap]
        apply List.flatMap_congr
        rintro ⟨child, i⟩ listed
        have found := (mem_indexedParts.mp listed).1
        rw [← ih child (List.mem_of_getElem? found)]
        simp only [nodeAt?, found, Option.bind_some]
      rw [map_positions, below, preorder_eq, List.map_append]
      congr 1
      · split <;> rfl
      · split <;> rfl

end Order

section Ranges

mutual

/-- All nodes of a tree, whether or not the walk comes to them. -/
def nodes : Node → List Node
  | ⟨type, start, stop, named, field, children⟩ =>
      ⟨type, start, stop, named, field, children⟩ :: nodesOf children
termination_by structural node => node

def nodesOf : List Node → List Node
  | [] => []
  | child :: rest => child.nodes ++ nodesOf rest
termination_by structural children => children

end

/-- Every node of the tree is of the kind `P`. -/
def Everywhere (P : Node → Prop) (root : Node) : Prop :=
  ∀ node ∈ root.nodes, P node

/-- The children of a node lie inside it, in order and without overlap. -/
def Nested (node : Node) : Prop :=
  (∀ child ∈ node.children,
    node.start ≤ child.start ∧ child.start ≤ node.stop ∧ child.stop ≤ node.stop) ∧
  node.children.Pairwise fun first second =>
    first.start ≤ second.start ∧ first.stop ≤ second.start

theorem nodesOf_eq (children : List Node) : nodesOf children = children.flatMap nodes := by
  induction children with
  | nil => rfl
  | cons child rest ih => rw [nodesOf, ih, List.flatMap_cons]

theorem everywhere_iff {P : Node → Prop} {node : Node} :
    node.Everywhere P ↔ P node ∧ ∀ child ∈ node.children, child.Everywhere P := by
  have all : node.nodes = node :: node.children.flatMap nodes := by
    rw [← nodesOf_eq]
    cases node
    rfl
  rw [Everywhere, all, List.forall_mem_cons, List.forall_mem_flatMap]
  rfl

theorem parts_sublist (node : Node) : node.parts.Sublist node.children :=
  List.filter_sublist.trans List.filter_sublist

theorem mem_preorder {node inner : Node} (visited : inner ∈ node.preorder) :
    inner = node ∨ ∃ child ∈ node.parts, inner ∈ child.preorder := by
  rw [preorder_eq, List.mem_append, List.mem_ite_nil_left, List.mem_ite_nil_left,
    List.mem_singleton, List.mem_flatMap] at visited
  rcases visited with ⟨-, own⟩ | ⟨-, below⟩
  · exact Or.inl own
  · exact Or.inr below

/-- What is visited below a node begins inside it. -/
theorem start_of_mem_preorder {node inner : Node} (nested : node.Everywhere Nested)
    (visited : inner ∈ node.preorder) :
    node.start ≤ inner.start ∧ (inner.start = node.start ∨ inner.start ≤ node.stop) := by
  induction node using induct with
  | step node ih =>
      obtain ⟨here, below⟩ := everywhere_iff.mp nested
      rcases mem_preorder visited with rfl | ⟨child, part, deeper⟩
      · exact ⟨Nat.le_refl _, Or.inl rfl⟩
      · have listed := (parts_sublist node).subset part
        obtain ⟨after, within⟩ := ih child listed (below child listed) deeper
        obtain ⟨first, last, stop⟩ := here.1 child listed
        exact ⟨by omega, Or.inr (by omega)⟩

/-- Where ranges are nested, the walk comes to nodes in the order in which they begin. -/
theorem pairwise_start_preorder {node : Node} (nested : node.Everywhere Nested) :
    node.preorder.Pairwise fun first second => first.start ≤ second.start := by
  induction node using induct with
  | step node ih =>
      obtain ⟨here, below⟩ := everywhere_iff.mp nested
      have listed : ∀ child ∈ node.parts, child ∈ node.children :=
        fun child part => (parts_sublist node).subset part
      rw [preorder_eq, List.pairwise_append]
      refine ⟨?_, ?_, ?_⟩
      · split <;> simp
      · split
        · exact List.Pairwise.nil
        · rw [List.pairwise_flatMap]
          constructor
          · intro child part
            exact ih child (listed child part) (below child (listed child part))
          · have apart := here.2.sublist (parts_sublist node)
            apply apart.imp_of_mem
            intro first second one two order inner left other right
            have before := start_of_mem_preorder (below first (listed first one)) left
            have behind := start_of_mem_preorder (below second (listed second two)) right
            omega
      · intro inner own other visited
        rw [List.mem_ite_nil_left, List.mem_singleton] at own
        have whole : other ∈ node.preorder := by
          rw [preorder_eq]
          exact List.mem_append_right _ visited
        rw [own.2]
        exact (start_of_mem_preorder nested whole).1

end Ranges

end Node

namespace Source

/-- Apart from their comments, the visits of a source are those of its nodes in pre-order. -/
theorem visits_without_docs (source : Source) :
    source.visits.map (fun visit => { visit with doc := none }) =
      source.root.preorder.map fun node => source.visit node none := by
  have walked := map_fst_walk source source.root.size [(source.root, none)] (by simp [Node.sizes])
  rw [List.map_singleton, List.flatMap_singleton] at walked
  rw [visits, ← walked, List.map_map, List.map_map]
  rfl

/-- The walk ends, and it is the recursive walk in pre-order: it visits the positions that can be
reached and are not transparent, each once and in lexicographic order. The calls of a source are
those of its call nodes in this order, which is the order in which they begin if the ranges of the
nodes are nested. -/
theorem walk_is_preorder (source : Source) :
    source.stackAfter source.root.size [(source.root, none)] = [] ∧
    (∀ more, source.walk (source.root.size + more) [(source.root, none)] =
      source.walk source.root.size [(source.root, none)]) ∧
    source.visits.map (fun visit => { visit with doc := none }) =
      source.root.preorder.map (fun node => source.visit node none) ∧
    source.root.positions.map source.root.nodeAt? = source.root.preorder.map some ∧
    source.root.positions.Pairwise (· < ·) ∧
    (∀ path, path ∈ source.root.positions ↔ source.root.Visited path) ∧
    source.calls = (source.root.preorder.filter fun node =>
      node.isA "function_call_expression").map source.callOf ∧
    (source.root.Everywhere Node.Nested →
      (source.root.preorder.filter fun node => node.isA "function_call_expression").Pairwise
        fun first second => first.start ≤ second.start) := by
  have ended : source.stackAfter source.root.size [(source.root, none)] = [] :=
    stackAfter_eq_nil source (by simp [Node.sizes])
  refine ⟨ended, ?_, visits_without_docs source, Node.map_nodeAt?_positions source.root,
    Node.pairwise_positions source.root, Node.mem_positions_iff source.root, calls_eq source, ?_⟩
  · intro more
    rw [walk_add, ended, walk_nil, List.append_nil]
  · intro nested
    exact (Node.pairwise_start_preorder nested).filter _

/-- The tree of a call whose function has a name of one byte. -/
def shortCall (start stop : Nat) (arguments : List Node) : Node :=
  ⟨"function_call_expression".toList, start, stop, true, none,
    [⟨"name".toList, start, start + 1, true, some "function".toList, []⟩,
      ⟨"arguments".toList, start + 1, stop, true, some "arguments".toList, arguments⟩]⟩

/-- A call with another one in parentheses as its argument, and a third call. -/
def nestedCalls : Source :=
  let mark (start : Nat) (text : String) : Node :=
    ⟨text.toList, start, start + 1, false, none, []⟩
  let enclosed : Node := ⟨"parenthesized_expression".toList, 2, 7, true, none,
    [mark 2 "(", shortCall 3 6 [mark 4 "(", mark 5 ")"], mark 6 ")"]⟩
  let argument : Node := ⟨"argument".toList, 2, 7, true, none, [enclosed]⟩
  ⟨"a.php".toList, "f((g()));h()".toList.map fun c => c.toNat.toUInt8,
    ⟨"program".toList, 0, 12, true, none,
      [shortCall 0 8 [mark 1 "(", argument, mark 7 ")"], mark 8 ";",
        shortCall 9 12 [mark 10 "(", mark 11 ")"]]⟩⟩

/-- The walk leaves the parentheses out and comes to the calls in the order in which they begin. -/
theorem walk_nestedCalls :
    nestedCalls.root.positions =
      [[], [0], [0, 0], [0, 1], [0, 1, 1], [0, 1, 1, 0, 1], [0, 1, 1, 0, 1, 0],
        [0, 1, 1, 0, 1, 1], [2], [2, 0], [2, 1]] ∧
    nestedCalls.calls.map Call.function =
      [some "f".toList, some "g".toList, some "h".toList] ∧
    nestedCalls.root.Everywhere Node.Nested ∧
    (nestedCalls.root.preorder.filter fun node => node.isA "function_call_expression").Pairwise
      fun first second => first.start ≤ second.start := by
  have nested : nestedCalls.root.Everywhere Node.Nested := by
    simp [Node.Everywhere, Node.nodes, Node.nodesOf, Node.Nested, nestedCalls, shortCall]
  obtain ⟨-, -, -, -, -, -, -, sorted⟩ := walk_is_preorder nestedCalls
  exact ⟨by decide, by decide +kernel, nested, sorted nested⟩

end Source
end PhpHooks
