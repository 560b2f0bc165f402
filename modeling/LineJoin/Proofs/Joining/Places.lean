import Mathlib.Data.List.GetD
import LineJoin.Proofs.Joining.NodeChildren

/-!
# Places in trees

The places of a tree in document order, a node before its children, and what a change at one place
leaves as it is: every node that does not contain the place. A node does not contain the places that
come before its own in document order.
-/

namespace LineJoin

namespace Tree

/-- A change of a node that keeps its children, whatever they are, and does not change what is no
node. -/
structure Shallow (g : Value → Value) : Prop where
  children : ∀ node, children (g node) = children node
  putChildren : ∀ nodes node, g (putChildren nodes node) = putChildren nodes (g node)
  fixed : ∀ node, fixedMember node = true → g node = node

namespace Shallow

variable {g h : Value → Value}

theorem id : Shallow fun node => node := ⟨fun _ => rfl, fun _ _ => rfl, fun _ _ => rfl⟩

theorem putValue (value : Value) : Shallow (putValue value) where
  children := children_putValue value
  putChildren := putValue_putChildren value
  fixed node hnode := by
    cases node <;> first | rfl | cases hnode

theorem childList (hg : Shallow g) (node : Value) : childList (g node) = childList node := by
  rw [Tree.childList, Tree.childList, hg.children]

theorem null (hg : Shallow g) : g .null = .null := hg.fixed .null rfl

end Shallow

section Lists

variable {g : Value → Value} {nodes : List Value}

theorem fits_refl (nodes : List Value) : Fits nodes nodes :=
  List.forall₂_same.mpr fun _ _ _ => rfl

theorem fits_modify (hg : ∀ v, fixedMember v = true → g v = v) (i : Nat) (nodes : List Value) :
    Fits (nodes.modify i g) nodes := by
  induction nodes generalizing i with
  | nil => cases i <;> exact .nil
  | cons v nodes ih =>
    cases i with
    | zero => exact .cons (hg v) (fits_refl nodes)
    | succ i => exact .cons (fun _ => rfl) (ih i)

theorem getD_modify (hg : g .null = .null) (i j : Nat) (nodes : List Value) :
    (nodes.modify i g).getD j .null =
      if i = j then g (nodes.getD j .null) else nodes.getD j .null := by
  rw [List.getD_eq_getElem?_getD, List.getD_eq_getElem?_getD, List.getElem?_modify]
  by_cases h : i = j
  · rw [if_pos h]
    cases nodes[j]? with
    | none => exact hg.symm
    | some v => simp [h]
  · simp [h]

end Lists

section Change

variable {g : Value → Value}

theorem changeAt_fixed (hg : Shallow g) (p : Place) {v : Value} (hv : fixedMember v = true) :
    changeAt p g v = v := by
  cases p with
  | nil => exact hg.fixed v hv
  | cons i p => cases v <;> first | rfl | cases hv

theorem childList_changeAt (hg : Shallow g) (i : Nat) (p : Place) (node : Value) :
    childList (changeAt (i :: p) g node) = (childList node).modify i (changeAt p g) :=
  childList_putChildren (fits_modify (fun _ => changeAt_fixed hg p) i _)

theorem nodeAt_append (p q : Place) (tree : Value) :
    nodeAt (p ++ q) tree = nodeAt q (nodeAt p tree) := by
  induction p generalizing tree with
  | nil => rfl
  | cons i p ih => exact ih _

theorem nodeAt_changeAt (hg : Shallow g) (p : Place) (tree : Value) :
    nodeAt p (changeAt p g tree) = g (nodeAt p tree) := by
  induction p generalizing tree with
  | nil => rfl
  | cons i p ih =>
    rw [nodeAt, childList_changeAt hg, getD_modify (changeAt_fixed hg p rfl), if_pos rfl, ih]
    rfl

/-- A change is not seen at the nodes that do not contain its place. -/
theorem nodeAt_changeAt_of_apart (hg : Shallow g) {p q : Place} (h : ¬q <+: p) (tree : Value) :
    nodeAt q (changeAt p g tree) = nodeAt q tree := by
  induction p generalizing q tree with
  | nil =>
    cases q with
    | nil => exact absurd (List.prefix_refl []) h
    | cons j q => rw [changeAt, nodeAt, nodeAt, hg.childList]
  | cons i p ih =>
    cases q with
    | nil => exact absurd List.nil_prefix h
    | cons j q =>
      rw [nodeAt, nodeAt, childList_changeAt hg, getD_modify (changeAt_fixed hg p rfl)]
      by_cases hij : i = j
      · rw [if_pos hij]
        exact ih (fun hq => h (List.cons_prefix_cons.mpr ⟨hij.symm, hq⟩)) _
      · rw [if_neg hij]

theorem changeAt_id (p : Place) (tree : Value) : changeAt p (fun node => node) tree = tree := by
  induction p generalizing tree with
  | nil => rfl
  | cons i p ih =>
    have hsame : changeAt p (fun node => node) = id := funext ih
    rw [changeAt, hsame, List.modify_id, putChildren_childList]

/-- Only what the node at the place is now counts for a change of it. -/
theorem changeAt_congr {h : Value → Value} {p : Place} {tree : Value}
    (hgh : g (nodeAt p tree) = h (nodeAt p tree)) : changeAt p g tree = changeAt p h tree := by
  induction p generalizing tree with
  | nil => exact hgh
  | cons i p ih =>
    have hmodify : (childList tree).modify i (changeAt p g) =
        (childList tree).modify i (changeAt p h) := by
      refine List.ext_getElem? fun j => ?_
      rw [List.getElem?_modify, List.getElem?_modify]
      cases hj : (childList tree)[j]? with
      | none => rfl
      | some v =>
        by_cases hij : i = j
        · have hv : (childList tree).getD i .null = v := by
            rw [List.getD_eq_getElem?_getD, hij, hj, Option.getD_some]
          have hnode : g (nodeAt p v) = h (nodeAt p v) := hv ▸ hgh
          simp [hij, ih hnode]
        · simp [hij]
    rw [changeAt, changeAt, hmodify]

end Change

/-- The places of a tree in document order. -/
def places (node : Value) : List Place :=
  [] :: ((childList node).attach.mapIdx fun i child => (places child.1).map (i :: ·)).flatten
termination_by size node
decreasing_by exact size_lt child.2

theorem mapIdx_attach {α β : Type} (f : Nat → α → β) (l : List α) :
    (l.attach.mapIdx fun i a => f i a.1) = l.mapIdx f := by
  refine List.ext_getElem (by simp) fun i hi hi' => ?_
  simp

theorem map_mapIdx {α β γ : Type} (f : Nat → α → β) (g : β → γ) (l : List α) :
    (l.mapIdx f).map g = l.mapIdx fun i a => g (f i a) := by
  refine List.ext_getElem (by simp) fun i hi hi' => ?_
  simp

theorem map_eq_mapIdx {α β : Type} (f : α → β) (l : List α) :
    l.map f = l.mapIdx fun _ a => f a := by
  refine List.ext_getElem (by simp) fun i hi hi' => ?_
  simp

theorem places_eq (node : Value) : places node =
    [] :: ((childList node).mapIdx fun i child => (places child).map (i :: ·)).flatten := by
  rw [places, mapIdx_attach fun i child => (places child).map (i :: ·)]

theorem nil_mem_places (node : Value) : [] ∈ places node := by
  rw [places_eq]
  exact List.mem_cons_self

theorem cons_mem_places {node : Value} {i : Nat} {p : Place} (hi : i < (childList node).length)
    (hp : p ∈ places (childList node)[i]) : i :: p ∈ places node := by
  rw [places_eq]
  refine List.mem_cons_of_mem _ (List.mem_flatten.mpr ⟨_, List.mem_mapIdx.mpr ⟨i, hi, rfl⟩, ?_⟩)
  exact List.mem_map_of_mem hp

/-- The nodes of a tree in document order. -/
def preorder (node : Value) : List Value :=
  node :: ((childList node).attach.map fun child => preorder child.1).flatten
termination_by size node
decreasing_by exact size_lt child.2

theorem preorder_eq (node : Value) :
    preorder node = node :: ((childList node).map preorder).flatten := by
  rw [preorder, List.attach_map_val]

/-- The places are those of the nodes that a walk through a node and then its children meets. -/
theorem map_nodeAt_places (tree : Value) :
    (places tree).map (fun p => nodeAt p tree) = preorder tree := by
  induction tree using tree_induction with
  | node tree ih =>
    rw [places_eq, preorder_eq, List.map_cons, List.map_flatten, map_mapIdx, map_eq_mapIdx]
    refine congrArg (fun lists => tree :: List.flatten lists) ?_
    refine List.mapIdx_eq_mapIdx_iff.mpr fun i hi => ?_
    rw [← ih _ (List.getElem_mem hi), List.map_map]
    refine List.map_congr_left fun p _ => ?_
    exact congrArg (nodeAt p) (List.getD_eq_getElem _ _ hi)

theorem length_places (tree : Value) : (places tree).length = size tree := by
  induction tree using tree_induction with
  | node tree ih =>
    rw [places_eq, size_eq, List.length_cons, List.length_flatten, map_mapIdx, map_eq_mapIdx,
      Nat.add_comm]
    refine congrArg (fun sizes => 1 + List.sum sizes) ?_
    refine List.mapIdx_eq_mapIdx_iff.mpr fun i hi => ?_
    rw [List.length_map, ih _ (List.getElem_mem hi)]

/-- No node contains a place that comes before its own. -/
theorem places_apart (tree : Value) : (places tree).Pairwise fun p q => ¬q <+: p := by
  induction tree using tree_induction with
  | node tree ih =>
    rw [places_eq, List.pairwise_cons, List.pairwise_flatten]
    refine ⟨?_, ?_, ?_⟩
    · intro q hq hprefix
      rw [List.prefix_nil.mp hprefix] at hq
      obtain ⟨_, hlist, hnil⟩ := List.mem_flatten.mp hq
      obtain ⟨i, _, rfl⟩ := List.mem_mapIdx.mp hlist
      obtain ⟨p, _, hp⟩ := List.mem_map.mp hnil
      cases hp
    · -- below one child
      intro list hlist
      obtain ⟨i, hi, rfl⟩ := List.mem_mapIdx.mp hlist
      refine List.pairwise_map.mpr ((ih _ (List.getElem_mem hi)).imp fun hpq hprefix => hpq ?_)
      exact (List.cons_prefix_cons.mp hprefix).2
    · -- below two children
      refine List.pairwise_iff_getElem.mpr fun i j hi hj hij p hp q hq hprefix => ?_
      rw [List.getElem_mapIdx] at hp hq
      obtain ⟨p, _, rfl⟩ := List.mem_map.mp hp
      obtain ⟨q, _, rfl⟩ := List.mem_map.mp hq
      have hji := (List.cons_prefix_cons.mp hprefix).1
      omega

end Tree

end LineJoin
