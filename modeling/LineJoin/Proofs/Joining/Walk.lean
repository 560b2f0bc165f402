import LineJoin.Proofs.Joining.Places

/-!
# The walk through a changing tree

A walk keeps nodes that are still to visit while it changes the tree they stand in. The nodes it keeps
are those of the tree as it is now, and together with what is below them they are the rest of the
document order of the tree the walk began with.
-/

namespace LineJoin

namespace Tree

/-- The places of pending nodes and of what is below them. -/
def remaining (pending : List Pending) : List Place :=
  pending.flatMap fun x => (places x.node).map (x.place ++ ·)

theorem remaining_append (xs ys : List Pending) :
    remaining (xs ++ ys) = remaining xs ++ remaining ys := List.flatMap_append

/-- A pending node and the children it has are in document order. -/
theorem remaining_children (p : Place) (node : Value) :
    p :: remaining ((childList node).mapIdx fun i child => ⟨p ++ [i], child⟩) =
      (places node).map (p ++ ·) := by
  rw [places_eq, List.map_cons, List.append_nil, List.map_flatten, map_mapIdx, remaining,
    List.flatMap_def, map_mapIdx]
  refine congrArg (fun lists => p :: List.flatten lists) ?_
  refine List.mapIdx_eq_mapIdx_iff.mpr fun i hi => ?_
  rw [List.map_map]
  refine List.map_congr_left fun q _ => ?_
  exact List.append_assoc p [i] q

/-- The nodes that are kept are those of the tree as it is now. -/
def Current (tree : Value) (pending : List Pending) : Prop :=
  ∀ x ∈ pending, nodeAt x.place tree = x.node

/-- A pending node that contains no place before it is not touched by a change there. -/
theorem Current.changeAt {g : Value → Value} (hg : Shallow g) {tree : Value} {p : Place}
    {pending : List Pending} (h : Current tree pending)
    (hp : ∀ q ∈ remaining pending, ¬q <+: p) : Current (changeAt p g tree) pending := by
  intro x hx
  have hplace : x.place ∈ remaining pending :=
    List.mem_flatMap.mpr ⟨x, hx, List.mem_map.mpr ⟨[], nil_mem_places x.node, List.append_nil _⟩⟩
  rw [nodeAt_changeAt_of_apart hg (hp _ hplace), h x hx]

section Text

variable (change : Option String)

theorem shallow_putText : Shallow (putText change) := by
  cases change with
  | none => exact Shallow.id
  | some s => exact Shallow.putValue (.str s)

theorem putTextAt_eq (p : Place) (tree : Value) :
    putTextAt p change tree = changeAt p (putText change) tree := by
  cases change with
  | none => exact (changeAt_id p tree).symm
  | some s => rfl

end Text

namespace Walk

variable {σ : Type} {nodeType : String} {act : Visit σ}

/-- What a visit of one node comes to: it fails, or the children of the node cannot be listed, or they
are visited next. -/
inductive Steps (nodeType : String) (act : Visit σ) (x : Pending) (w : Walk σ) :
    Walk σ × List Pending → Prop
  | fails {e : TreeError} (hvisit : visit nodeType act x.node w.result = .error e) :
    Steps nodeType act x w ({ w with failure := some e }, [])
  | stops {result : σ} {change : Option String} {e : TreeError}
    (hvisit : visit nodeType act x.node w.result = .ok (result, change))
    (hchildren : children x.node = .error e) :
    Steps nodeType act x w (⟨putTextAt x.place change w.tree, result, some e⟩, [])
  | goesOn {result : σ} {change : Option String} {nodes : List Value}
    (hvisit : visit nodeType act x.node w.result = .ok (result, change))
    (hchildren : children x.node = .ok nodes) :
    Steps nodeType act x w (⟨putTextAt x.place change w.tree, result, none⟩,
      nodes.mapIdx fun i node => ⟨x.place ++ [i], node⟩)

theorem step_steps (nodeType : String) (act : Visit σ) (x : Pending) (w : Walk σ) :
    Steps nodeType act x w (w.step nodeType act x) := by
  rw [step]
  cases hvisit : visit nodeType act x.node w.result with
  | error e => exact .fails hvisit
  | ok r =>
    obtain ⟨result, change⟩ := r
    dsimp only
    rw [(shallow_putText change).children]
    cases hchildren : children x.node with
    | error e => exact .stops hvisit hchildren
    | ok nodes => exact .goesOn hvisit hchildren

/-- Visits places one after the other, each in the tree as it is then, until a visit fails. -/
def visitAll (nodeType : String) (act : Visit σ) : List Place → Walk σ → Walk σ
  | [], w => w
  | p :: ps, w =>
    let w := (w.step nodeType act ⟨p, nodeAt p w.tree⟩).1
    match w.failure with
    | some _ => w
    | none => visitAll nodeType act ps w

/-- The children of a visited node are those of the tree after the visit. -/
theorem current_children {x : Pending} {tree : Value} {nodes : List Value}
    (hx : nodeAt x.place tree = x.node) (hchildren : children x.node = .ok nodes)
    (change : Option String) :
    Current (changeAt x.place (putText change) tree)
      (nodes.mapIdx fun i node => ⟨x.place ++ [i], node⟩) := by
  intro y hy
  obtain ⟨i, hi, rfl⟩ := List.mem_mapIdx.mp hy
  have hshallow := shallow_putText change
  rw [nodeAt_append, nodeAt_changeAt hshallow, hx, nodeAt, hshallow.childList,
    childList_of_ok hchildren]
  exact List.getD_eq_getElem _ _ hi

/-- The walk visits the places of the tree it began with in document order, each in the tree as the
visits before have left it. -/
theorem run_eq_visitAll {n : Nat} {pending : List Pending} {w : Walk σ}
    (hcurrent : Current w.tree pending)
    (hapart : (remaining pending).Pairwise fun p q => ¬q <+: p)
    (hn : (remaining pending).length ≤ n) :
    run nodeType act n pending w = visitAll nodeType act (remaining pending) w := by
  induction n generalizing pending w with
  | zero =>
    cases pending with
    | nil => rfl
    | cons x pending =>
      rw [remaining, List.flatMap_cons, ← remaining_children] at hn
      simp at hn
  | succ n ih =>
    cases pending with
    | nil => rfl
    | cons x pending =>
      have hremaining : remaining (x :: pending) = x.place ::
          (remaining ((childList x.node).mapIdx fun i child => ⟨x.place ++ [i], child⟩) ++
            remaining pending) := by
        rw [remaining, List.flatMap_cons, ← remaining_children, List.cons_append]
        rfl
      have hx : nodeAt x.place w.tree = x.node := hcurrent x List.mem_cons_self
      rw [hremaining] at hapart hn ⊢
      rw [run, visitAll, hx]
      have hsteps := step_steps nodeType act x w
      revert hsteps
      generalize w.step nodeType act x = r
      rintro (hvisit | ⟨hvisit, hchildren⟩ | ⟨hvisit, hchildren⟩)
      · rfl
      · rfl
      · rename_i result change nodes
        rw [List.pairwise_cons] at hapart
        rw [childList_of_ok hchildren, ← remaining_append] at hapart hn ⊢
        refine ih ?_ hapart.2 (Nat.le_of_succ_le_succ hn)
        rw [putTextAt_eq]
        intro y hy
        rcases List.mem_append.mp hy with hy | hy
        · exact current_children hx hchildren change y hy
        · have hpending : Current w.tree pending :=
            fun z hz => hcurrent z (List.mem_cons_of_mem x hz)
          refine hpending.changeAt (shallow_putText change) (fun q hq => hapart.1 q ?_) y hy
          rw [remaining_append]
          exact List.mem_append_right _ hq

end Walk

theorem walk_eq_visitAll {σ : Type} (nodeType : String) (act : Visit σ) (tree : Value) (result : σ) :
    walk nodeType act tree result =
      Walk.visitAll nodeType act (places tree) { tree, result } := by
  have hremaining : remaining [⟨[], tree⟩] = places tree := by
    rw [remaining, List.flatMap_singleton]
    exact List.map_id _
  rw [walk, Walk.run_eq_visitAll, hremaining]
  · exact List.forall_mem_singleton.mpr rfl
  · rw [hremaining]
    exact places_apart tree
  · rw [hremaining]
    exact Nat.le_of_eq (length_places tree)

end Tree

end LineJoin
