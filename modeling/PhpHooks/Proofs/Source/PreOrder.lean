import PhpHooks.Source.Walk

set_option autoImplicit false

/-!
The walk with a stack is the recursive walk in pre-order: a node comes before everything below it,
and what is below one child comes before the next child.
-/
namespace PhpHooks

namespace Node

mutual

/-- The nodes visited from a node on: itself unless it is transparent, then what is below its parts
in order, unless it is a leaf. -/
def preorder : Node → List Node
  | ⟨type, start, stop, named, field, children⟩ =>
      let node : Node := ⟨type, start, stop, named, field, children⟩
      (if Source.isTransparent node then [] else [node]) ++
        (if Source.isLeaf node then [] else preorderParts children)
termination_by structural node => node

def preorderParts : List Node → List Node
  | [] => []
  | child :: rest =>
      (if child.named && !child.isA "comment" then child.preorder else []) ++ preorderParts rest
termination_by structural children => children

end

theorem preorderParts_eq (children : List Node) : preorderParts children =
    ((children.filter named).filter fun child => !child.isA "comment").flatMap preorder := by
  induction children with
  | nil => rfl
  | cons child rest ih =>
      rw [preorderParts, ih, List.filter_cons]
      cases child.named with
      | false => simp
      | true =>
          cases comment : child.isA "comment" with
          | false => simp [comment]
          | true => simp [comment]

theorem preorder_eq (node : Node) : node.preorder =
    (if Source.isTransparent node then [] else [node]) ++
      (if Source.isLeaf node then [] else node.parts.flatMap preorder) := by
  rw [parts, namedChildren, ← preorderParts_eq]
  cases node
  rfl

theorem sizes_append (first second : List Node) :
    sizes (first ++ second) = sizes first + sizes second := by
  induction first with
  | nil => rw [List.nil_append, sizes, Nat.zero_add]
  | cons node rest ih => rw [List.cons_append, sizes, sizes, ih, Nat.add_assoc]

theorem sizes_filter_le (keep : Node → Bool) (nodes : List Node) :
    sizes (nodes.filter keep) ≤ sizes nodes := by
  induction nodes with
  | nil => exact Nat.le_refl _
  | cons node rest ih =>
      rw [List.filter_cons]
      split
      · rw [sizes, sizes]
        omega
      · rw [sizes]
        omega

/-- A node has more nodes than its parts have together. -/
theorem sizes_parts_lt (node : Node) : sizes node.parts < node.size := by
  have parts := sizes_filter_le (fun child => !child.isA "comment") node.namedChildren
  have children := sizes_filter_le named node.children
  have whole : node.size = sizes node.children + 1 := by
    cases node
    rw [size]
  rw [Node.parts, whole]
  rw [namedChildren] at parts ⊢
  omega

end Node

namespace Source

theorem map_fst_documented (source : Source) (parent : Node) (doc pending : Option Text)
    (children : List Node) :
    (source.documented parent doc pending children).map Prod.fst =
      (children.filter Node.named).filter fun child => !child.isA "comment" := by
  induction children generalizing pending with
  | nil => rfl
  | cons child rest ih =>
      rw [documented]
      cases named : child.named with
      | false => simp [ih, named]
      | true =>
          cases comment : child.isA "comment" with
          | false => simp [ih, named, comment]
          | true => simp [ih, named, comment]

theorem map_fst_below (source : Source) (node : Node) (doc : Option Text) :
    (source.below node doc).map Prod.fst = if isLeaf node then [] else node.parts := by
  rw [below]
  split
  · rfl
  · rw [map_fst_documented, Node.parts, Node.namedChildren]

/-- Taking a node off the stack and putting what is below it on leaves fewer nodes to come. -/
theorem sizes_turn_lt (source : Source) (node : Node) (doc : Option Text)
    (stack : List (Node × Option Text)) :
    Node.sizes ((source.below node doc ++ stack).map Prod.fst) <
      Node.sizes (((node, doc) :: stack).map Prod.fst) := by
  have smaller := Node.sizes_parts_lt node
  simp only [List.map_append, map_fst_below, Node.sizes_append, List.map_cons, Node.sizes]
  split
  · rw [Node.sizes]
    omega
  · omega

/-- A walk with enough steps shows what is on the stack in recursive order, where `spread` is any
function that shows a node first and then what is below it. -/
theorem map_walk {β : Type} (source : Source) (shown : Node × Option Text → β)
    (spread : Node × Option Text → List β)
    (unfolds : ∀ node doc, spread (node, doc) =
      (if isTransparent node then [] else [shown (node, doc)]) ++
        (source.below node doc).flatMap spread)
    (bound : Nat) (stack : List (Node × Option Text))
    (enough : Node.sizes (stack.map Prod.fst) ≤ bound) :
    (source.walk bound stack).map shown = stack.flatMap spread := by
  induction bound generalizing stack with
  | zero =>
      cases stack with
      | nil => rfl
      | cons top stack =>
          obtain ⟨node, doc⟩ := top
          have positive := sizes_turn_lt source node doc stack
          omega
  | succ bound ih =>
      cases stack with
      | nil => rfl
      | cons top stack =>
          obtain ⟨node, doc⟩ := top
          have smaller := sizes_turn_lt source node doc stack
          have rest := ih (source.below node doc ++ stack) (by omega)
          rw [List.flatMap_append] at rest
          rw [walk, List.flatMap_cons, unfolds]
          split
          · rw [rest, List.nil_append]
          · rw [List.map_cons, rest, List.singleton_append, List.cons_append]

def stackAfter (source : Source) : Nat → List (Node × Option Text) → List (Node × Option Text)
  | 0, stack => stack
  | _ + 1, [] => []
  | turns + 1, (node, doc) :: stack => source.stackAfter turns (source.below node doc ++ stack)

theorem walk_nil (source : Source) (bound : Nat) : source.walk bound [] = [] := by
  cases bound <;> rfl

/-- A walk can be interrupted and goes on with the stack that is left. -/
theorem walk_add (source : Source) (turns more : Nat) (stack : List (Node × Option Text)) :
    source.walk (turns + more) stack =
      source.walk turns stack ++ source.walk more (source.stackAfter turns stack) := by
  induction turns generalizing stack with
  | zero =>
      rw [Nat.zero_add, stackAfter]
      cases stack <;> rfl
  | succ turns ih =>
      rw [Nat.succ_add]
      cases stack with
      | nil => simp only [stackAfter, walk_nil, List.append_nil]
      | cons top stack =>
          obtain ⟨node, doc⟩ := top
          simp only [walk, stackAfter, ih]
          split
          · rfl
          · rw [List.cons_append]

theorem sizes_stackAfter_le (source : Source) (turns : Nat) (stack : List (Node × Option Text)) :
    Node.sizes ((source.stackAfter turns stack).map Prod.fst) ≤
      Node.sizes (stack.map Prod.fst) - turns := by
  induction turns generalizing stack with
  | zero => exact Nat.le_refl _
  | succ turns ih =>
      cases stack with
      | nil => exact Nat.zero_le _
      | cons top stack =>
          obtain ⟨node, doc⟩ := top
          have turn := sizes_turn_lt source node doc stack
          have later := ih (source.below node doc ++ stack)
          rw [stackAfter]
          omega

/-- The walk ends: every turn takes a node, so the stack is empty after as many turns as there are
nodes. -/
theorem stackAfter_eq_nil (source : Source) {turns : Nat} {stack : List (Node × Option Text)}
    (enough : Node.sizes (stack.map Prod.fst) ≤ turns) : source.stackAfter turns stack = [] := by
  have bound := sizes_stackAfter_le source turns stack
  cases left : source.stackAfter turns stack with
  | nil => rfl
  | cons top rest =>
      obtain ⟨node, doc⟩ := top
      have positive := sizes_turn_lt source node doc rest
      rw [left] at bound
      omega

theorem map_fst_walk (source : Source) (bound : Nat) (stack : List (Node × Option Text))
    (enough : Node.sizes (stack.map Prod.fst) ≤ bound) :
    (source.walk bound stack).map Prod.fst = (stack.map Prod.fst).flatMap Node.preorder := by
  rw [List.flatMap_map]
  apply map_walk source Prod.fst (fun entry => entry.1.preorder) ?_ bound stack enough
  intro node doc
  have flat : (source.below node doc).flatMap (fun entry => entry.1.preorder) =
      if isLeaf node then [] else node.parts.flatMap Node.preorder := by
    rw [← List.flatMap_map (f := Prod.fst), map_fst_below]
    split <;> rfl
  rw [flat, Node.preorder_eq]

def callsInPreorder (source : Source) : List (Call Node) :=
  (source.root.preorder.filter fun node => node.isA "function_call_expression").map source.callOf

theorem ofNode_eq_call_iff (node : Node) :
    NodeTag.ofNode node = .call ↔ node.isA "function_call_expression" = true := by
  rw [NodeTag.ofNode]
  cases node.isA "function_call_expression" with
  | true => simp
  | false =>
      simp only [Bool.false_eq_true, if_false, iff_false]
      split
      · simp
      · split
        · simp
        · split <;> simp

theorem calls_eq (source : Source) : source.calls = source.callsInPreorder := by
  have walked := map_fst_walk source source.root.size [(source.root, none)] (by simp [Node.sizes])
  rw [List.map_singleton, List.flatMap_singleton] at walked
  rw [calls, visits, callsInPreorder, ← walked, List.filterMap_map, List.filter_map, List.map_map,
    ← List.filterMap_eq_map, List.filterMap_filter]
  congr 1
  funext entry
  simp only [Function.comp_apply, visit, ofNode_eq_call_iff]

end Source
end PhpHooks
