import LineJoin.Proofs.Joining.Walk

/-!
# The order in which text nodes are found

The walk keeps the nodes that are still to visit on a stack and puts the children of a visited node in
front of it. `Finishes` describes this as a loop without a bound: a step for the first node, until no
node is left. If all children can be listed, what has been found so far and what is still to be found
among the pending nodes and below them stay the same together, so the loop finds the nodes of the type
in the order of a recursive walk, and it ends after one step for each node.
-/

namespace LineJoin

namespace Tree

namespace Walk

variable {σ : Type} {nodeType : String} {act : Visit σ}

/-- The loop comes to its end: after so many steps without a failure no node is left. -/
inductive Finishes (nodeType : String) (act : Visit σ) :
    Nat → List Pending → Walk σ → Walk σ → Prop
  | done (w : Walk σ) : Finishes nodeType act 0 [] w w
  | step {n : Nat} {x : Pending} {below pending : List Pending} {w next last : Walk σ}
    (hstep : w.step nodeType act x = (next, below)) (hfailure : next.failure = none)
    (rest : Finishes nodeType act n (below ++ pending) next last) :
    Finishes nodeType act (n + 1) (x :: pending) w last

/-- A loop that ends does not depend on a bound for its steps that is large enough. -/
theorem Finishes.run_eq {n m : Nat} {pending : List Pending} {w last : Walk σ}
    (h : Finishes nodeType act n pending w last) (hm : n ≤ m) :
    run nodeType act m pending w = last := by
  induction h generalizing m with
  | done w => cases m <;> rfl
  | step hstep hfailure _ ih =>
    cases m with
    | zero => cases hm
    | succ m =>
      rw [run, hstep]
      dsimp only
      rw [hfailure]
      exact ih (Nat.le_of_succ_le_succ hm)

end Walk

/-- Adds a node to those found so far, the last one first. -/
def collect : Visit (List Value) := fun node _ nodes => .ok (node :: nodes, none)

/-- The node has the type, and its value is a text. -/
def isTextNode (nodeType : String) (node : Value) : Bool :=
  (node.part "type").text? == some nodeType && (node.part "value").text?.isSome

/-- The children of a node can be listed, if there are any. -/
def Listable (node : Value) : Prop :=
  (node.part "children").truthy = true → ∃ nodes, members (node.part "children") = .ok nodes

/-- The text nodes among pending nodes and what is below them, in document order. -/
def textNodesOf (nodeType : String) (pending : List Pending) : List Value :=
  (pending.flatMap fun x => preorder x.node).filter (isTextNode nodeType)

section Collecting

variable {nodeType : String} {tree : Value} {found : List Value}

theorem Listable.children_eq {node : Value} (h : Listable node) :
    children node = .ok (childList node) := by
  have hok : ∃ nodes, children node = .ok nodes := by
    rw [children]
    split
    · exact h ‹_›
    · exact ⟨[], rfl⟩
  obtain ⟨nodes, hnodes⟩ := hok
  rw [hnodes, childList_of_ok hnodes]

theorem visit_collect (node : Value) : visit nodeType collect node found =
    .ok ([node].filter (isTextNode nodeType) ++ found, none) := by
  rw [visit, nodeText?]
  by_cases htype : (node.part "type").text? = some nodeType
  · cases hvalue : (node.part "value").text? <;> simp [htype, hvalue, isTextNode, collect]
  · simp [htype, isTextNode]

/-- A step moves a text node from the pending ones to those found, and its children come next. -/
theorem step_collect {x : Pending} (h : Listable x.node) :
    Walk.step nodeType collect x ⟨tree, found, none⟩ =
      (⟨tree, [x.node].filter (isTextNode nodeType) ++ found, none⟩,
        (childList x.node).mapIdx fun i child => ⟨x.place ++ [i], child⟩) := by
  rw [Walk.step, visit_collect]
  dsimp only [putText]
  rw [h.children_eq]
  rfl

/-- The nodes that a visited node leaves to visit are those below it. -/
theorem flatMap_preorder_children (p : Place) (node : Value) :
    ((childList node).mapIdx fun i child => (⟨p ++ [i], child⟩ : Pending)).flatMap
      (fun x => preorder x.node) = ((childList node).map preorder).flatten := by
  rw [List.flatMap_def, map_mapIdx, map_eq_mapIdx]

/-- What has been found and what is found among the pending nodes is what the loop finds. -/
theorem finishes_collect {pending : List Pending}
    (h : ∀ node ∈ pending.flatMap fun x => preorder x.node, Listable node) :
    Walk.Finishes nodeType collect (pending.flatMap fun x => preorder x.node).length pending
      ⟨tree, found, none⟩ ⟨tree, (textNodesOf nodeType pending).reverse ++ found, none⟩ := by
  induction hn : (pending.flatMap fun x => preorder x.node).length generalizing pending found with
  | zero =>
    cases pending with
    | nil => exact .done _
    | cons x pending =>
      rw [List.flatMap_cons, preorder_eq] at hn
      cases hn
  | succ n ih =>
    cases pending with
    | nil => cases hn
    | cons x pending =>
      let below := (childList x.node).mapIdx fun i child => (⟨x.place ++ [i], child⟩ : Pending)
      have hnodes : ((x :: pending).flatMap fun y => preorder y.node) =
          x.node :: (below ++ pending).flatMap fun y => preorder y.node := by
        rw [List.flatMap_cons, preorder_eq, List.flatMap_append, flatMap_preorder_children]
        rfl
      have hfound : textNodesOf nodeType (x :: pending) =
          [x.node].filter (isTextNode nodeType) ++ textNodesOf nodeType (below ++ pending) := by
        rw [textNodesOf, hnodes, ← List.singleton_append, List.filter_append, textNodesOf]
      rw [hnodes] at h hn
      obtain ⟨hx, hrest⟩ := List.forall_mem_cons.mp h
      have hone : ([x.node].filter (isTextNode nodeType)).reverse =
          [x.node].filter (isTextNode nodeType) := by
        rw [List.filter_singleton]
        cases isTextNode nodeType x.node <;> rfl
      rw [hfound, List.reverse_append, hone, List.append_assoc]
      exact .step (step_collect hx) rfl (ih hrest (Nat.succ.inj hn))

end Collecting

theorem nodup_places (tree : Value) : (places tree).Nodup := by
  refine (places_apart tree).imp fun {p q} (hapart : ¬q <+: p) (heq : p = q) => hapart ?_
  exact heq ▸ List.prefix_refl p

theorem length_preorder (tree : Value) : (preorder tree).length = size tree := by
  rw [← map_nodeAt_places, List.length_map, length_places]

/-- If the children of all nodes can be listed, the walk ends after one step for each node, and the
nodes found are those of the type whose value is a text, in the order of the recursive walk, each as
often as it occurs in the tree. -/
theorem textNodes_preorder (nodeType : String) {tree : Value}
    (h : ∀ node ∈ preorder tree, Listable node) :
    (∃ w, Walk.Finishes nodeType collect (size tree) [⟨[], tree⟩] { tree, result := [] } w ∧
        textNodes nodeType tree = .ok w.result.reverse) ∧
      textNodes nodeType tree = .ok ((preorder tree).filter (isTextNode nodeType)) ∧
      (places tree).Nodup ∧ (preorder tree).filter (isTextNode nodeType) =
        ((places tree).filter fun p => isTextNode nodeType (nodeAt p tree)).map
          fun p => nodeAt p tree := by
  have hpending : ([⟨[], tree⟩] : List Pending).flatMap (fun x => preorder x.node) =
      preorder tree := List.flatMap_singleton _ _
  have hfinishes : Walk.Finishes nodeType collect _ [⟨[], tree⟩] ⟨tree, [], none⟩ _ :=
    finishes_collect (by rwa [hpending])
  rw [textNodesOf, hpending, length_preorder, List.append_nil] at hfinishes
  have hwalk : walk nodeType collect tree [] =
      ⟨tree, ((preorder tree).filter (isTextNode nodeType)).reverse, none⟩ :=
    hfinishes.run_eq (Nat.le_refl _)
  have hfound : textNodes nodeType tree = .ok ((preorder tree).filter (isTextNode nodeType)) := by
    unfold collect at hwalk
    simp only [textNodes, hwalk, List.reverse_reverse]
  refine ⟨⟨_, hfinishes, ?_⟩, hfound, nodup_places tree, ?_⟩
  · rw [hfound, List.reverse_reverse]
  · rw [← map_nodeAt_places, List.filter_map]
    rfl

/-- A text node with a child of its own, a node without a value, and nothing among the children. -/
def nestedTree : Value :=
  root [.object [("type", .str "text"), ("value", .str "a"), ("children", .tuple [textNode "b"])],
    .null, .dict [(.str "type", .str "text"), (.str "children", .str "c")], textNode "d"]

theorem textNodes_preorder_nested :
    (∀ node ∈ preorder nestedTree, Listable node) ∧
      textNodes "text" nestedTree = .ok [.object [("type", .str "text"), ("value", .str "a"),
        ("children", .tuple [textNode "b"])], textNode "b", textNode "d"] := by
  let first : Value :=
    .object [("type", .str "text"), ("value", .str "a"), ("children", .tuple [textNode "b"])]
  let third : Value := .dict [(.str "type", .str "text"), (.str "children", .str "c")]
  have hleaf (node : Value) (hnode : childList node = []) : preorder node = [node] := by
    rw [preorder_eq, hnode]
    rfl
  have hnodes : preorder nestedTree =
      [nestedTree, first, textNode "b", .null, third, .str "c", textNode "d"] := by
    rw [preorder_eq, show childList nestedTree = [first, .null, third, textNode "d"] from rfl]
    simp only [List.map_cons, List.map_nil]
    rw [preorder_eq first, show childList first = [textNode "b"] from rfl, preorder_eq third,
      show childList third = [.str "c"] from by rfl]
    simp only [List.map_cons, List.map_nil]
    rw [hleaf (textNode "b") rfl, hleaf .null rfl, hleaf (.str "c") rfl,
      hleaf (textNode "d") rfl]
    rfl
  have hbare (node : Value) (hnode : (node.part "children").truthy = false) : Listable node := by
    intro hchildren
    rw [hnode] at hchildren
    cases hchildren
  have hlistable : ∀ node ∈ preorder nestedTree, Listable node := by
    rw [hnodes]
    simp only [List.forall_mem_cons, List.not_mem_nil, false_implies, implies_true, and_true]
    exact ⟨fun _ => ⟨_, rfl⟩, fun _ => ⟨_, rfl⟩, hbare _ rfl, hbare _ rfl, fun _ => ⟨_, rfl⟩,
      hbare _ rfl, hbare _ rfl⟩
  refine ⟨hlistable, ?_⟩
  rw [(textNodes_preorder "text" hlistable).2.1, hnodes]
  rfl

end Tree

end LineJoin
