import LineJoin.Proofs.Joining.Places

/-!
# Changing the nodes of a tree

`mapNodes` changes every node of a tree, each after its place. The tree keeps its shape, a node of the
new tree is the changed node of the old one with the new children, and one more change at one place is
the map with that change after its own.
-/

namespace LineJoin

namespace Tree

/-- Changes every node of a tree by its place, and leaves everything else as it is. -/
def mapNodes (h : Place → Value → Value) (node : Value) : Value :=
  h [] (putChildren
    ((childList node).attach.mapIdx fun i child => mapNodes (fun p => h (i :: p)) child.1) node)
termination_by size node
decreasing_by exact size_lt child.2

theorem mapNodes_eq (h : Place → Value → Value) (node : Value) :
    mapNodes h node = h [] (putChildren
      ((childList node).mapIdx fun i child => mapNodes (fun p => h (i :: p)) child) node) := by
  rw [mapNodes, mapIdx_attach fun i child => mapNodes (fun p => h (i :: p)) child]

theorem fits_mapIdx {f : Nat → Value → Value} (hf : ∀ i v, fixedMember v = true → f i v = v)
    (nodes : List Value) : Fits (nodes.mapIdx f) nodes := by
  induction nodes generalizing f with
  | nil => exact .nil
  | cons v nodes ih =>
    rw [List.mapIdx_cons]
    exact .cons (hf 0 v) (ih fun i => hf (i + 1))

section Map

variable {h : Place → Value → Value}

theorem mapNodes_fixed (hh : ∀ p, Shallow (h p)) {v : Value} (hv : fixedMember v = true) :
    mapNodes h v = v := by
  have hput (nodes : List Value) : putChildren nodes v = v := by
    cases v <;> first | rfl | cases hv
  rw [mapNodes_eq, hput, (hh []).fixed v hv]

theorem children_mapNodes (hh : ∀ p, Shallow (h p)) (node : Value) :
    children (mapNodes h node) = (children node).map fun nodes =>
      nodes.mapIdx fun i child => mapNodes (fun p => h (i :: p)) child := by
  have hfits : Fits ((childList node).mapIdx fun i child => mapNodes (fun p => h (i :: p)) child)
      (childList node) :=
    fits_mapIdx (fun i v hv => mapNodes_fixed (fun p => hh (i :: p)) hv) _
  rw [mapNodes_eq, (hh []).children, children_putChildren hfits]
  cases hchildren : children node with
  | error e => rfl
  | ok nodes => rw [childList_of_ok hchildren]; rfl

theorem childList_mapNodes (hh : ∀ p, Shallow (h p)) (node : Value) :
    childList (mapNodes h node) =
      (childList node).mapIdx fun i child => mapNodes (fun p => h (i :: p)) child := by
  rw [childList, childList, children_mapNodes hh]
  cases children node <;> rfl

/-- The shape of the tree stays the same. -/
theorem places_mapNodes (hh : ∀ p, Shallow (h p)) (tree : Value) :
    places (mapNodes h tree) = places tree := by
  induction tree using tree_induction generalizing h with
  | node tree ih =>
    rw [places_eq, places_eq, childList_mapNodes hh, List.mapIdx_mapIdx]
    refine congrArg (fun lists => [] :: List.flatten lists) ?_
    refine List.mapIdx_eq_mapIdx_iff.mpr fun i hi => ?_
    rw [Function.comp_apply, ih _ (List.getElem_mem hi) fun p => hh (i :: p)]

theorem nodeAt_mapNodes (hh : ∀ p, Shallow (h p)) (p : Place) (tree : Value) :
    nodeAt p (mapNodes h tree) = mapNodes (fun q => h (p ++ q)) (nodeAt p tree) := by
  induction p generalizing h tree with
  | nil => rfl
  | cons i p ih =>
    have hchild : (childList (mapNodes h tree)).getD i .null =
        mapNodes (fun q => h (i :: q)) ((childList tree).getD i .null) := by
      rw [childList_mapNodes hh]
      by_cases hi : i < (childList tree).length
      · rw [List.getD_eq_getElem _ _ hi, List.getD_eq_getElem _ _ (by simpa using hi),
          List.getElem_mapIdx]
      · rw [List.getD_eq_default _ _ (by simpa using hi),
          List.getD_eq_default _ _ (by simpa using hi), mapNodes_fixed (fun q => hh (i :: q)) rfl]
    rw [nodeAt, hchild, ih fun q => hh (i :: q)]
    rfl

/-- Apart from its children a node of the new tree is the changed node of the old one. -/
theorem part_nodeAt_mapNodes (hh : ∀ p, Shallow (h p)) (p : Place) (tree : Value) {name : String}
    (hname : "children" ≠ name) :
    (nodeAt p (mapNodes h tree)).part name = (h p (nodeAt p tree)).part name := by
  rw [nodeAt_mapNodes hh, mapNodes_eq, (hh (p ++ [])).putChildren, part_putChildren_of_ne hname,
    List.append_nil]

theorem mapNodes_congr {g : Place → Value → Value} {tree : Value} (hg : ∀ p, Shallow (g p))
    (hh : ∀ p, Shallow (h p)) (hgh : ∀ p ∈ places tree, g p (nodeAt p tree) = h p (nodeAt p tree)) :
    mapNodes g tree = mapNodes h tree := by
  induction tree using tree_induction generalizing g h with
  | node tree ih =>
    have hroot : g [] tree = h [] tree := hgh [] (nil_mem_places tree)
    rw [mapNodes_eq, mapNodes_eq, (hg []).putChildren, (hh []).putChildren, hroot]
    refine congrArg (putChildren · _) (List.mapIdx_eq_mapIdx_iff.mpr fun i hi => ?_)
    refine ih _ (List.getElem_mem hi) (fun p => hg (i :: p)) (fun p => hh (i :: p)) fun p hp => ?_
    have hnode := hgh (i :: p) (cons_mem_places hi hp)
    rwa [nodeAt, List.getD_eq_getElem _ _ hi] at hnode

theorem mapNodes_id (tree : Value) : mapNodes (fun _ node => node) tree = tree := by
  induction tree using tree_induction with
  | node tree ih =>
    have hsame : ((childList tree).mapIdx fun _ child => mapNodes (fun _ node => node) child) =
        childList tree := by
      refine List.ext_getElem (by simp) fun i hi hi' => ?_
      rw [List.getElem_mapIdx, ih _ (List.getElem_mem _)]
    rw [mapNodes_eq, hsame, putChildren_childList]

/-- One more change at one place. -/
theorem changeAt_mapNodes (hh : ∀ p, Shallow (h p)) (g : Value → Value) (p : Place) (tree : Value) :
    changeAt p g (mapNodes h tree) =
      mapNodes (fun q => if q = p then g ∘ h q else h q) tree := by
  induction p generalizing h tree with
  | nil =>
    rw [changeAt, mapNodes_eq, mapNodes_eq, if_pos rfl]
    rfl
  | cons i p ih =>
    have hmodify : (childList (mapNodes h tree)).modify i (changeAt p g) =
        (childList tree).mapIdx fun j child =>
          mapNodes (fun q => if j :: q = i :: p then g ∘ h (j :: q) else h (j :: q)) child := by
      rw [childList_mapNodes hh]
      refine List.ext_getElem (by simp) fun j hj hj' => ?_
      rw [List.getElem_modify, List.getElem_mapIdx, List.getElem_mapIdx]
      by_cases hij : i = j
      · subst hij
        rw [if_pos rfl, ih fun q => hh (i :: q)]
        simp only [List.cons.injEq, true_and]
      · have hne (q : Place) : ¬j :: q = i :: p := fun heq => hij (List.cons.inj heq).1.symm
        simp only [hij, hne, if_false]
    rw [changeAt, hmodify, mapNodes_eq, mapNodes_eq, if_neg (List.cons_ne_nil i p).symm,
      ← (hh []).putChildren, putChildren_putChildren (by simp)]

end Map

end Tree

end LineJoin
