import PhpHooks.Proofs.Source.Positions

set_option autoImplicit false

/-!
Which documentation comment a visited node gets. The walk hands comments down from parent to child,
one level at a time. Seen from the node, it is the comment of the nearest node on the way up that
has one of its own, and only if the two begin at the same byte.
-/
namespace PhpHooks

/-- No child begins before its parent. -/
def Node.Forward (node : Node) : Prop :=
  ∀ child ∈ node.children, node.start ≤ child.start

namespace Source

/-- The comment of its own that a node has behind these siblings: the last documentation comment
among the comments that follow the previous part. Bare tokens are passed over. -/
def ownDoc? (source : Source) (before : List Node) : Option Text :=
  ((before.filter Node.named).reverse.takeWhile fun sibling => sibling.isA "comment").findSome?
    source.docText?

/-- The nodes on the way down to a position, each with the comment of its own. -/
def trail (source : Source) (node : Node) (own : Option Text) :
    List Nat → List (Node × Option Text)
  | [] => [(node, own)]
  | i :: path => (node, own) ::
      match node.children[i]? with
      | some child => source.trail child (source.ownDoc? (node.children.take i)) path
      | none => []

/-- The comment for a node at the end of a trail: that of the nearest node with a comment of its
own, if the two begin at the same byte. -/
def attachedDoc? (trail : List (Node × Option Text)) (node : Node) : Option Text :=
  (trail.reverse.find? fun entry => entry.2.isSome).bind fun nearest =>
    if nearest.1.start = node.start then nearest.2 else none

/-- The comment that a child gets from a parent with the comment `doc`. -/
def handedDoc? (source : Source) (parent : Node) (doc : Option Text) (i : Nat) (child : Node) :
    Option Text :=
  (source.ownDoc? (parent.children.take i)).or (if child.start == parent.start then doc else none)

/-- The node at a position with the comment that is handed down to it, level by level. -/
def reached? (source : Source) (node : Node) (doc : Option Text) :
    List Nat → Option (Node × Option Text)
  | [] => some (node, doc)
  | i :: path => node.children[i]?.bind fun child =>
      source.reached? child (source.handedDoc? node doc i child) path

section Siblings

variable (source : Source) {child : Node} (before : List Node)

theorem ownDoc?_concat_token (token : child.named = false) :
    source.ownDoc? (before ++ [child]) = source.ownDoc? before := by
  simp [ownDoc?, List.filter_append, token]

theorem ownDoc?_concat_comment (named : child.named = true) (comment : child.isA "comment" = true) :
    source.ownDoc? (before ++ [child]) = (source.docText? child).or (source.ownDoc? before) := by
  rw [ownDoc?, List.filter_append, List.filter_singleton, named, cond_true, List.reverse_append,
    List.reverse_singleton, List.singleton_append, List.takeWhile_cons, comment,
    if_pos rfl, List.findSome?_cons]
  cases source.docText? child <;> rfl

theorem ownDoc?_concat_part (part : child.isPart = true) :
    source.ownDoc? (before ++ [child]) = none := by
  rw [Node.isPart, Bool.and_eq_true, Bool.not_eq_true'] at part
  rw [ownDoc?, List.filter_append, List.filter_singleton, part.1, cond_true, List.reverse_append,
    List.reverse_singleton, List.singleton_append, List.takeWhile_cons_of_neg (by simp [part.2])]
  rfl

/-- The pending comment of the walk is the own comment of the node that would come next. -/
theorem documented_eq (source : Source) (parent : Node) (doc : Option Text)
    (before rest : List Node) (whole : parent.children = before ++ rest) :
    source.documented parent doc (source.ownDoc? before) rest =
      ((rest.zipIdx before.length).filter fun entry => entry.1.isPart).map fun entry =>
        (entry.1, source.handedDoc? parent doc entry.2 entry.1) := by
  induction rest generalizing before with
  | nil => rfl
  | cons child rest ih =>
      have later := ih (before ++ [child]) (by rw [whole, List.append_assoc]; rfl)
      rw [List.length_append, List.length_singleton] at later
      rw [documented, List.zipIdx_cons, List.filter_cons]
      cases named : child.named with
      | false =>
          rw [ownDoc?_concat_token source before named] at later
          simp [Node.isPart, named, later]
      | true =>
          cases comment : child.isA "comment" with
          | true =>
              rw [ownDoc?_concat_comment source before named comment] at later
              simp [Node.isPart, named, comment, later]
          | false =>
              have part : child.isPart = true := by rw [Node.isPart, named, comment]; rfl
              rw [ownDoc?_concat_part source before part] at later
              have front : parent.children.take before.length = before := by
                rw [whole, List.take_left]
              simp [part, later, handedDoc?, front]

theorem below_eq (source : Source) (node : Node) (doc : Option Text) :
    source.below node doc =
      if isLeaf node then []
      else node.indexedParts.map fun entry =>
        (entry.1, source.handedDoc? node doc entry.2 entry.1) := by
  rw [below, Node.indexedParts]
  split
  · rfl
  · exact documented_eq source node doc [] node.children rfl

end Siblings

/-- The walk visits the positions in order, each with the comment that is handed down to it. -/
theorem map_some_walk (source : Source) :
    (source.walk source.root.size [(source.root, none)]).map some =
      source.root.positions.map (source.reached? source.root none) := by
  have enough : Node.sizes ([(source.root, none)].map (Prod.fst (β := Option Text))) ≤
      source.root.size := by
    simp [Node.sizes]
  have walked := map_walk source some
    (fun entry => entry.1.positions.map (source.reached? entry.1 entry.2)) ?_ _ _ enough
  · rwa [List.flatMap_singleton] at walked
  intro node doc
  rw [Node.map_positions, below_eq]
  congr 1
  split
  · rfl
  · rw [List.flatMap_map]
    apply List.flatMap_congr
    rintro ⟨child, i⟩ listed
    have found := (Node.mem_indexedParts.mp listed).1
    simp only [reached?, found, Option.bind_some]

section Trails

variable {source : Source}

theorem attachedDoc?_singleton (own : Option Text) (node : Node) :
    attachedDoc? [(node, own)] node = own := by
  cases own with
  | none => rfl
  | some doc => simp [attachedDoc?]

/-- Handing a comment down one level does not change what is attached further below: since no node
begins before its parent, a node that begins where its grandparent does begins where its parent
does. -/
theorem attachedDoc?_handed {parent child node : Node} (own handed : Option Text)
    (rest : List (Node × Option Text)) (first : parent.start ≤ child.start)
    (second : child.start ≤ node.start) :
    attachedDoc? ((parent, own) :: (child, handed) :: rest) node =
      attachedDoc? ((child, handed.or (if child.start == parent.start then own else none)) :: rest)
        node := by
  simp only [attachedDoc?, List.reverse_cons, List.append_assoc, List.find?_append]
  cases rest.reverse.find? fun entry => entry.2.isSome with
  | some nearest => rfl
  | none =>
      cases handed with
      | some doc => simp
      | none =>
          by_cases same : child.start = parent.start
          · cases own with
            | none => simp
            | some doc => simp [same]
          · have apart : parent.start ≠ node.start := by omega
            cases own with
            | none => simp
            | some doc => simp [same, apart]

theorem start_le_of_nodeAt? {node inner : Node} {path : List Nat}
    (forward : node.Everywhere Node.Forward) (found : node.nodeAt? path = some inner) :
    node.start ≤ inner.start := by
  induction path generalizing node with
  | nil => exact Nat.le_of_eq (congrArg Node.start (Option.some.inj found))
  | cons i path ih =>
      obtain ⟨here, below⟩ := Node.everywhere_iff.mp forward
      obtain ⟨child, listed, deeper⟩ := Option.bind_eq_some_iff.mp found
      have inside := List.mem_of_getElem? listed
      exact Nat.le_trans (here child inside) (ih (below child inside) deeper)

theorem trail_eq_cons (source : Source) (node : Node) (own : Option Text) (path : List Nat) :
    source.trail node own path = (node, own) :: (source.trail node none path).tail := by
  cases path <;> rfl

/-- What is handed down to a node is the comment of the nearest node with one of its own, if they
begin at the same byte. -/
theorem reached?_eq {node : Node} (forward : node.Everywhere Node.Forward) (doc : Option Text)
    (path : List Nat) :
    source.reached? node doc path =
      (node.nodeAt? path).map fun inner =>
        (inner, attachedDoc? (source.trail node doc path) inner) := by
  induction path generalizing node doc with
  | nil => simp [reached?, Node.nodeAt?, trail, attachedDoc?_singleton]
  | cons i path ih =>
      obtain ⟨here, below⟩ := Node.everywhere_iff.mp forward
      rw [reached?, Node.nodeAt?, trail]
      cases listed : node.children[i]? with
      | none => rfl
      | some child =>
          have inside := List.mem_of_getElem? listed
          simp only [Option.bind_some]
          rw [ih (below child inside)]
          apply Option.map_congr
          intro inner found
          have later := start_le_of_nodeAt? (below child inside) found
          rw [trail_eq_cons, trail_eq_cons source child (source.ownDoc? _),
            attachedDoc?_handed _ _ _ (here child inside) later, handedDoc?]

end Trails

/-- Every visited node has the comment of the nearest node on the way up to the root, itself
included, that has one of its own, if that node begins at the same byte; otherwise it has none. -/
theorem visits_with_nearest_doc (source : Source) (forward : source.root.Everywhere Node.Forward) :
    source.visits.map some =
      source.root.positions.map fun path =>
        (source.root.nodeAt? path).map fun node =>
          source.visit node (attachedDoc? (source.trail source.root none path) node) := by
  have walked := congrArg (List.map (Option.map fun entry => source.visit entry.1 entry.2))
    (map_some_walk source)
  rw [List.map_map, List.map_map] at walked
  rw [visits, List.map_map]
  refine Eq.trans walked ?_
  apply List.map_congr_left
  intro path visited
  rw [Function.comp_apply, reached?_eq forward, Option.map_map]
  rfl

/-- A statement behind two comments, of which the first is a documentation comment. -/
def commentedStatement : Source :=
  let call : Node := shortCall 15 18 [⟨"(".toList, 16, 17, false, none, []⟩]
  ⟨"a.php".toList, "/** d *//* e */f();".toList.map fun c => c.toNat.toUInt8,
    ⟨"program".toList, 0, 19, true, none,
      [⟨"comment".toList, 0, 8, true, none, []⟩, ⟨"comment".toList, 8, 15, true, none, []⟩,
        ⟨"expression_statement".toList, 15, 19, true, none, [call]⟩]⟩⟩

/-- The statement, its call and the name of the function share the comment; the arguments begin
later. -/
theorem docs_commentedStatement :
    commentedStatement.root.Everywhere Node.Forward ∧
    commentedStatement.visits.map (fun visit => (visit.type, visit.doc)) =
      [("program".toList, none), ("expression_statement".toList, some "/** d */".toList),
        ("function_call_expression".toList, some "/** d */".toList),
        ("name".toList, some "/** d */".toList), ("arguments".toList, none)] := by
  have forward : commentedStatement.root.Everywhere Node.Forward := by
    simp [Node.Everywhere, Node.nodes, Node.nodesOf, Node.Forward, commentedStatement, shortCall]
  have attached := congrArg
    (List.map (Option.map fun visit : Visit Node => (visit.type, visit.doc)))
    (visits_with_nearest_doc commentedStatement forward)
  rw [List.map_map] at attached
  refine ⟨forward, List.map_injective_iff.mpr (fun _ _ same => Option.some.inj same) ?_⟩
  rw [List.map_map]
  exact attached.trans (by decide +kernel)

end Source
end PhpHooks
