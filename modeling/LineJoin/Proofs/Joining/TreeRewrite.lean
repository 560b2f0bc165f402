import LineJoin.Proofs.Joining.NodeMap
import LineJoin.Proofs.Joining.Units
import LineJoin.Proofs.Joining.Walk

/-!
# Rewriting the texts of a tree

A run that comes to its end is a map over the text nodes. A run that does not has rewritten the text
nodes before the node it stopped at, and that node as well if only its children could not be listed.
-/

namespace LineJoin

namespace Tree

/-- A node with its text rewritten, if it is a text node. -/
def rewriteNode (f : String → String) (node : Value) : Value :=
  match nodeText? "text" node with
  | none => node
  | some s => if f s = s then node else putValue (.str (f s)) node

/-- The tree with the text of every text node rewritten. -/
def mapTexts (f : String → String) (tree : Value) : Value := mapNodes (fun _ => rewriteNode f) tree

/-- The tree with the texts of the nodes at some places rewritten. -/
def mapTextsAt (f : String → String) (ps : List Place) (tree : Value) : Value :=
  mapNodes (fun p node => if p ∈ ps then rewriteNode f node else node) tree

/-- The texts of a tree in document order. -/
def textsOf (tree : Value) : List String := (preorder tree).filterMap (nodeText? "text")

/-- How many texts there are and how many of them are not what they are rewritten to. -/
def tallyOf (f : String → String) (texts : List String) : Tally :=
  ⟨texts.length, texts.countP fun s => f s ≠ s⟩

/-- A text node that would change and does not let its value be set. -/
def Refuses (f : String → String) (node : Value) (e : TreeError) : Prop :=
  ∃ s, nodeText? "text" node = some s ∧ f s ≠ s ∧ fixed? node = some e

/-- A run gets past a node if its text can be rewritten and its children can be listed. -/
def Passes (f : String → String) (node : Value) : Prop :=
  (∀ e, ¬Refuses f node e) ∧ ∃ nodes, children node = .ok nodes

section Nodes

variable {f : String → String} {node : Value}

theorem shallow_rewriteNode (f : String → String) : Shallow (rewriteNode f) where
  children node := by
    unfold rewriteNode
    split
    · rfl
    · split
      · rfl
      · exact children_putValue _ node
  putChildren nodes node := by
    unfold rewriteNode
    rw [nodeText?_putChildren]
    split
    · rfl
    · split
      · rfl
      · exact putValue_putChildren _ nodes node
  fixed node hnode := by
    cases node <;> first | rfl | cases hnode

theorem shallow_rewriteIf (f : String → String) (c : Prop) [Decidable c] :
    Shallow fun node => if c then rewriteNode f node else node := by
  by_cases h : c
  · simp only [h, if_true]
    exact shallow_rewriteNode f
  · simp only [h, if_false]
    exact Shallow.id

/-- A map over the text nodes is one of the node and one of each child. -/
theorem mapTexts_eq (f : String → String) (node : Value) :
    mapTexts f node = rewriteNode f (putChildren ((childList node).map (mapTexts f)) node) := by
  rw [mapTexts, mapNodes_eq, map_eq_mapIdx]
  rfl

theorem rewriteNode_of_text {s : String} (hs : nodeText? "text" node = some s) (hfs : f s ≠ s) :
    rewriteNode f node = putValue (.str (f s)) node := by
  rw [rewriteNode, hs]
  exact if_neg hfs

theorem rewriteNode_of_same {s : String} (hs : nodeText? "text" node = some s) (hfs : f s = s) :
    rewriteNode f node = node := by
  rw [rewriteNode, hs]
  exact if_pos hfs

theorem rewriteNode_of_none (hs : nodeText? "text" node = none) : rewriteNode f node = node := by
  rw [rewriteNode, hs]

/-- The new text of a node whose text could be rewritten. -/
theorem nodeText?_rewriteNode (h : ∀ e, ¬Refuses f node e) :
    nodeText? "text" (rewriteNode f node) = (nodeText? "text" node).map f := by
  cases hs : nodeText? "text" node with
  | none => rw [rewriteNode_of_none hs, hs]; rfl
  | some s =>
    by_cases hfs : f s = s
    · rw [rewriteNode_of_same hs hfs, hs, Option.map_some, hfs]
    · have hfixed : fixed? node = none := by
        cases hfixed : fixed? node with
        | none => rfl
        | some e => exact absurd ⟨s, hs, hfs, hfixed⟩ (h e)
      have htype : (node.part "type").text? = some "text" := by
        by_contra hne
        rw [nodeText?, if_neg hne] at hs
        cases hs
      rw [rewriteNode_of_text hs hfs, nodeText?, part_putValue_of_ne (by decide), if_pos htype,
        part_putValue _ hfixed]
      rfl

theorem part_rewriteNode {name : String}
    (h : nodeText? "text" node = none ∨ "value" ≠ name) :
    (rewriteNode f node).part name = node.part name := by
  unfold rewriteNode
  split
  · rfl
  · rename_i s hs
    rw [hs] at h
    have hname := h.resolve_left (Option.some_ne_none s)
    split
    · rfl
    · exact part_putValue_of_ne hname _ node

end Nodes

section Errors

theorem typeName_of_fixed {nodeType s : String} {e : TreeError} {node : Value}
    (hs : nodeText? nodeType node = some s) (hfixed : fixed? node = some e) :
    e = .readOnly node.typeName := by
  induction node using node_induction with
  | dict entries => cases hfixed
  | frozen entries => exact (Option.some.inj hfixed).symm
  | object fields => cases hfixed
  | shared id v ih => exact ih hs hfixed
  | other v hpart =>
    rw [nodeText?, hpart, hpart] at hs
    cases hs

theorem members_error {e : TreeError} : ∀ {v : Value}, members v = .error e →
    e = .notIterable v.typeName
  | .shared _ v, h => members_error (v := v) h
  | .null, h | .bool _, h | .int _, h | .float _, h | .object _, h | .rule _, h | .day _, h
  | .moment _, h => (Except.error.inj h).symm

theorem children_error {e : TreeError} {node : Value} (h : children node = .error e) :
    (node.part "children").truthy = true ∧ members (node.part "children") = .error e := by
  unfold children at h
  by_cases htruthy : (node.part "children").truthy = true
  · rw [if_pos htruthy] at h
    exact ⟨htruthy, h⟩
  · rw [if_neg htruthy] at h
    cases h

end Errors

section Visits

variable {f : String → String} {node : Value} {t : Tally}

theorem tallyOf_concat (f : String → String) (texts : List String) (s : String) :
    tallyOf f (texts ++ [s]) =
      ⟨(tallyOf f texts).visited + 1, (tallyOf f texts).changed + if f s = s then 0 else 1⟩ := by
  simp [tallyOf, List.countP_append, List.countP_cons]

/-- What a visit comes to: the node is no text node, or its text stays, changes or cannot change. -/
inductive Visited (f : String → String) (node : Value) (t : Tally) :
    Except TreeError (Tally × Option String) → Prop
  | other (hs : nodeText? "text" node = none) : Visited f node t (.ok (t, none))
  | same {s : String} (hs : nodeText? "text" node = some s) (hfs : f s = s) :
    Visited f node t (.ok ({ t with visited := t.visited + 1 }, none))
  | changed {s : String} (hs : nodeText? "text" node = some s) (hfs : f s ≠ s)
    (hfixed : fixed? node = none) :
    Visited f node t (.ok (⟨t.visited + 1, t.changed + 1⟩, some (f s)))
  | refused {s : String} {e : TreeError} (hs : nodeText? "text" node = some s) (hfs : f s ≠ s)
    (hfixed : fixed? node = some e) : Visited f node t (.error e)

theorem visit_visited (f : String → String) (node : Value) (t : Tally) :
    Visited f node t (visit "text" (rewriteVisit f) node t) := by
  unfold visit
  cases hs : nodeText? "text" node with
  | none => exact .other hs
  | some s =>
    dsimp only
    unfold rewriteVisit
    by_cases hfs : f s = s
    · rw [if_pos hfs]
      exact .same hs hfs
    · rw [if_neg hfs]
      cases hfixed : fixed? node with
      | none => exact .changed hs hfs hfixed
      | some e => exact .refused hs hfs hfixed

/-- A visit that fails is refused by the node. -/
theorem refuses_of_visit {e : TreeError} (h : visit "text" (rewriteVisit f) node t = .error e) :
    Refuses f node e := by
  have hvisited := visit_visited f node t
  rw [h] at hvisited
  cases hvisited with
  | refused hs hfs hfixed => exact ⟨_, hs, hfs, hfixed⟩

/-- A visit that succeeds rewrites the node and counts it. -/
theorem rewriteNode_of_visit {texts : List String} {result : Tally} {change : Option String}
    (h : visit "text" (rewriteVisit f) node (tallyOf f texts) = .ok (result, change)) :
    putText change node = rewriteNode f node ∧ (∀ e, ¬Refuses f node e) ∧
      result = tallyOf f (texts ++ (nodeText? "text" node).toList) := by
  have hvisited := visit_visited f node (tallyOf f texts)
  rw [h] at hvisited
  cases hvisited with
  | other hs =>
    refine ⟨(rewriteNode_of_none hs).symm, ?_, by rw [hs, Option.toList_none, List.append_nil]⟩
    rintro e ⟨s, hs', -⟩
    rw [hs] at hs'
    cases hs'
  | same hs hfs =>
    refine ⟨(rewriteNode_of_same hs hfs).symm, ?_, ?_⟩
    · rintro e ⟨s, hs', hfs', -⟩
      rw [hs] at hs'
      cases hs'
      exact hfs' hfs
    · rw [hs, Option.toList_some, tallyOf_concat, if_pos hfs]
      rfl
  | changed hs hfs hfixed =>
    refine ⟨(rewriteNode_of_text hs hfs).symm, ?_, ?_⟩
    · rintro e ⟨s, -, -, hfixed'⟩
      rw [hfixed] at hfixed'
      cases hfixed'
    · rw [hs, Option.toList_some, tallyOf_concat, if_neg hfs]

end Visits

/-- How a run over a tree ends: with all texts rewritten, or at the first node that it does not get
past. -/
inductive Ends (f : String → String) (tree : Value) : Walk Tally → Prop
  | completed (hpasses : ∀ p ∈ places tree, Passes f (nodeAt p tree)) :
    Ends f tree ⟨mapTextsAt f (places tree) tree, tallyOf f (textsOf tree), none⟩
  | refused {done rest : List Place} {p : Place} {e : TreeError} {result : Tally}
    (hplaces : places tree = done ++ p :: rest) (hdone : ∀ q ∈ done, Passes f (nodeAt q tree))
    (hrefuses : Refuses f (nodeAt p tree) e) :
    Ends f tree ⟨mapTextsAt f done tree, result, some e⟩
  | stopped {done rest : List Place} {p : Place} {e : TreeError} {result : Tally}
    (hplaces : places tree = done ++ p :: rest) (hdone : ∀ q ∈ done, Passes f (nodeAt q tree))
    (hrefuses : ∀ e', ¬Refuses f (nodeAt p tree) e')
    (hchildren : children (nodeAt p tree) = .error e) :
    Ends f tree ⟨mapTextsAt f (done ++ [p]) tree, result, some e⟩

section Run

variable {f : String → String} {tree : Value} {done rest : List Place} {p : Place}

theorem mapTextsAt_nil (f : String → String) (tree : Value) : mapTextsAt f [] tree = tree := by
  unfold mapTextsAt
  simp only [List.not_mem_nil, if_false]
  exact mapNodes_id tree

theorem mapTextsAt_places (f : String → String) (tree : Value) :
    mapTextsAt f (places tree) tree = mapTexts f tree := by
  refine mapNodes_congr (fun p => shallow_rewriteIf f (p ∈ places tree))
    (fun _ => shallow_rewriteNode f) fun p hp => ?_
  exact if_pos hp

/-- What becomes of a node, apart from its children. -/
theorem nodeAt_mapTexts (h : ∀ e, ¬Refuses f (nodeAt p tree) e) :
    nodeText? "text" (nodeAt p (mapTexts f tree)) = (nodeText? "text" (nodeAt p tree)).map f ∧
      ∀ name, "children" ≠ name → nodeText? "text" (nodeAt p tree) = none ∨ "value" ≠ name →
        (nodeAt p (mapTexts f tree)).part name = (nodeAt p tree).part name := by
  have hpart {name : String} (hname : "children" ≠ name) :
      (nodeAt p (mapTexts f tree)).part name = (rewriteNode f (nodeAt p tree)).part name :=
    part_nodeAt_mapNodes (fun _ => shallow_rewriteNode f) p tree hname
  constructor
  · rw [nodeText?, hpart (by decide), hpart (by decide)]
    exact nodeText?_rewriteNode h
  · intro name hname hother
    rw [hpart hname, part_rewriteNode hother]

/-- A node that contains none of the places is untouched. -/
theorem nodeAt_mapTextsAt (hapart : ∀ q ∈ done, ¬p <+: q) :
    nodeAt p (mapTextsAt f done tree) = nodeAt p tree := by
  have hbelow (q : Place) : p ++ q ∉ done := fun hq => hapart _ hq (List.prefix_append p q)
  rw [mapTextsAt, nodeAt_mapNodes fun q => shallow_rewriteIf f (q ∈ done)]
  simp only [hbelow, if_false]
  exact mapNodes_id _

theorem apart_of_places (hplaces : places tree = done ++ p :: rest) : ∀ q ∈ done, ¬p <+: q := by
  have hapart := places_apart tree
  rw [hplaces, List.pairwise_append] at hapart
  exact fun q hq => hapart.2.2 q hq p List.mem_cons_self

theorem changeAt_mapTextsAt (hp : p ∉ done) :
    changeAt p (rewriteNode f) (mapTextsAt f done tree) = mapTextsAt f (done ++ [p]) tree := by
  rw [mapTextsAt, changeAt_mapNodes fun q => shallow_rewriteIf f (q ∈ done)]
  refine congrArg (mapNodes · tree) (funext fun q => funext fun node => ?_)
  by_cases hq : q = p
  · simp [hq, hp]
  · simp [hq]

theorem filterMap_nodeText_concat :
    ((done ++ [p]).map fun q => nodeAt q tree).filterMap (nodeText? "text") =
      (done.map fun q => nodeAt q tree).filterMap (nodeText? "text") ++
        (nodeText? "text" (nodeAt p tree)).toList := by
  rw [List.map_append, List.filterMap_append, List.map_singleton, List.filterMap_cons,
    List.filterMap_nil]
  cases nodeText? "text" (nodeAt p tree) <;> rfl

/-- What is left of a run whose first visits went well. -/
theorem visitAll_ends {w : Walk Tally} (hplaces : places tree = done ++ rest)
    (htree : w.tree = mapTextsAt f done tree)
    (hresult : w.result =
      tallyOf f ((done.map fun q => nodeAt q tree).filterMap (nodeText? "text")))
    (hfailure : w.failure = none) (hdone : ∀ q ∈ done, Passes f (nodeAt q tree)) :
    Ends f tree (Walk.visitAll "text" (rewriteVisit f) rest w) := by
  induction rest generalizing done w with
  | nil =>
    rw [List.append_nil] at hplaces
    obtain ⟨_, _, _⟩ := w
    cases htree
    cases hresult
    cases hfailure
    rw [← hplaces, map_nodeAt_places]
    exact .completed (hplaces ▸ hdone)
  | cons p rest ih =>
    have hapart := apart_of_places hplaces
    have hp : p ∉ done := fun hp => hapart p hp (List.prefix_refl p)
    have hnode : nodeAt p w.tree = nodeAt p tree := htree ▸ nodeAt_mapTextsAt hapart
    have hrewritten {change : Option String}
        (hchange : putText change (nodeAt p tree) = rewriteNode f (nodeAt p tree)) :
        putTextAt p change w.tree = mapTextsAt f (done ++ [p]) tree := by
      rw [← hnode] at hchange
      rw [putTextAt_eq, changeAt_congr hchange, htree, changeAt_mapTextsAt hp]
    rw [Walk.visitAll, hnode]
    have hsteps := Walk.step_steps "text" (rewriteVisit f) ⟨p, nodeAt p tree⟩ w
    revert hsteps
    generalize w.step "text" (rewriteVisit f) ⟨p, nodeAt p tree⟩ = r
    rintro (hvisit | ⟨hvisit, hchildren⟩ | ⟨hvisit, hchildren⟩)
    · dsimp only
      rw [htree]
      exact .refused hplaces hdone (refuses_of_visit hvisit)
    · rw [hresult] at hvisit
      obtain ⟨hchange, hrefuses, -⟩ := rewriteNode_of_visit hvisit
      dsimp only
      rw [hrewritten hchange]
      exact .stopped hplaces hdone hrefuses hchildren
    · rw [hresult] at hvisit
      obtain ⟨hchange, hrefuses, hcount⟩ := rewriteNode_of_visit hvisit
      have hnext : places tree = (done ++ [p]) ++ rest := by
        rw [hplaces, List.append_assoc]
        rfl
      refine ih hnext (hrewritten hchange) ?_ rfl ?_
      · rw [hcount, filterMap_nodeText_concat]
      · intro q hq
        rcases List.mem_append.mp hq with hq | hq
        · exact hdone q hq
        · rw [List.mem_singleton.mp hq]
          exact ⟨hrefuses, _, hchildren⟩

theorem rewriteWalk_ends (f : String → String) (tree : Value) :
    Ends f tree (rewriteWalk f tree) := by
  rw [rewriteWalk, walk_eq_visitAll]
  exact visitAll_ends (List.nil_append _).symm (mapTextsAt_nil f tree).symm rfl rfl fun q hq =>
    absurd hq List.not_mem_nil

end Run

section Outcome

variable {data tree : Value} {ps : List Pattern} {records : List Record}

/-- Nothing is touched unless the options make patterns. -/
theorem removeBreaks_of_error {e : RewriteError}
    (h : (patternsOfValue data).outcome = (.error e, records)) (tree : Value) :
    removeBreaks (patternsOfValue data) tree = ⟨tree, .error (.rewrite e), records⟩ := by
  rw [removeBreaks, h]

theorem removeBreaks_of_ok (h : (patternsOfValue data).outcome = (.ok ps, records)) (tree : Value) :
    removeBreaks (patternsOfValue data) tree =
      outcomeOf records ps.length (rewriteWalk (rewriteString ps) tree) := by
  rw [removeBreaks, h]

theorem result_of_success (h : (patternsOfValue data).outcome = (.ok ps, records))
    (hfailure : (rewriteWalk (rewriteString ps) tree).failure = none) :
    (removeBreaks (patternsOfValue data) tree).result = .ok () := by
  rw [removeBreaks_of_ok h, outcomeOf, hfailure]

theorem result_of_failure {e : TreeError} (h : (patternsOfValue data).outcome = (.ok ps, records))
    (hfailure : (rewriteWalk (rewriteString ps) tree).failure = some e) :
    (removeBreaks (patternsOfValue data) tree).result = .error (.tree e) := by
  rw [removeBreaks_of_ok h, outcomeOf, hfailure]

/-- What the default options do to a text. -/
theorem exists_patterns_default : ∃ ps, (patternsOfValue .null).outcome = (.ok ps, []) ∧
    rewriteString ps = fun s => String.ofList (deleteBreaks (fun before after =>
      before.reverse.tails.any (Units.node {} false).matchesAll &&
        after.inits.any (Units.node {} false).matchesAll) [] s.toList) := by
  have hrules : ({} : Options).additionalRules = [] := rfl
  obtain ⟨ps, hps, hdelete⟩ := rewriteText_betweenUnits hrules
  refine ⟨ps, patternsOfValue_outcome (by rfl) hps, funext fun s => ?_⟩
  rw [rewriteString, hdelete, betweenUnits_eq]

/-- A run that comes to its end is a map over the text nodes: their texts become what removing the
breaks of the text alone gives, the tree keeps its nodes and their order, and nothing else of a node
changes. What is reported is how many texts there are and how many of them changed. -/
theorem removeBreaks_mapTexts (h : (removeBreaks (patternsOfValue data) tree).result = .ok ()) :
    ∃ ps records, (patternsOfValue data).outcome = (.ok ps, records) ∧
      (∀ s, (LineJoin.removeBreaks (.str s) data).outcome = (.ok (rewriteString ps s), records)) ∧
      let f := rewriteString ps
      let out := removeBreaks (patternsOfValue data) tree
      out.tree = mapTexts f tree ∧ places out.tree = places tree ∧
        (∀ p ∈ places tree,
          nodeText? "text" (nodeAt p out.tree) = (nodeText? "text" (nodeAt p tree)).map f ∧
            ∀ name, "children" ≠ name →
              nodeText? "text" (nodeAt p tree) = none ∨ "value" ≠ name →
                (nodeAt p out.tree).part name = (nodeAt p tree).part name) ∧
        out.records = records ++
          [⟨.debug, .rewriting, report (tallyOf f (textsOf tree)) ps.length, false⟩] := by
  cases hpatterns : (patternsOfValue data).outcome with
  | mk patterns records =>
    cases patterns with
    | error e =>
      rw [removeBreaks_of_error hpatterns] at h
      cases h
    | ok ps =>
      refine ⟨ps, records, rfl, removeBreaks_of_patterns hpatterns, ?_⟩
      rw [removeBreaks_of_ok hpatterns] at h ⊢
      have hends := rewriteWalk_ends (rewriteString ps) tree
      revert h hends
      generalize rewriteWalk (rewriteString ps) tree = w
      rintro h (hpasses | _ | _)
      · rw [mapTextsAt_places]
        exact ⟨rfl, places_mapNodes (fun _ => shallow_rewriteNode _) tree,
          fun p hp => nodeAt_mapTexts (hpasses p hp).1, rfl⟩
      · cases h
      · cases h

/-- A tree of mappings and objects, with a text for children and a text that cannot be set. -/
def mixedTree : Value :=
  root [.object [("type", .str "paragraph"), ("children", .tuple [textNode "字\n字",
    .frozen [(.str "type", .str "text"), (.str "value", .str "a")]])],
    .dict [(.str "children", .str "ab")]]

theorem removeBreaks_mapTexts_mixed :
    (removeBreaks (patternsOfValue .null) mixedTree).result = .ok () ∧
      places (removeBreaks (patternsOfValue .null) mixedTree).tree = places mixedTree ∧
      nodeText? "text" (nodeAt [0, 0] (removeBreaks (patternsOfValue .null) mixedTree).tree) =
        some "字字" ∧
      nodeText? "text" (nodeAt [0, 1] (removeBreaks (patternsOfValue .null) mixedTree).tree) =
        some "a" := by
  obtain ⟨ps, hps, hrewrite⟩ := exists_patterns_default
  have hfailure : (rewriteWalk (rewriteString ps) mixedTree).failure = none := by
    rw [hrewrite]
    decide +kernel
  have hresult := result_of_success hps hfailure
  obtain ⟨ps', records, hps', -, -, hplaces, hnodes, -⟩ := removeBreaks_mapTexts hresult
  obtain rfl : ps = ps' := by
    rw [hps] at hps'
    cases hps'
    rfl
  have hfirst : [0, 0] ∈ places mixedTree :=
    cons_mem_places (by decide) (cons_mem_places (by decide) (nil_mem_places _))
  have hsecond : [0, 1] ∈ places mixedTree :=
    cons_mem_places (by decide) (cons_mem_places (by decide) (nil_mem_places _))
  refine ⟨hresult, hplaces, (hnodes _ hfirst).1.trans ?_, (hnodes _ hsecond).1.trans ?_⟩
  · rw [hrewrite]
    decide +kernel
  · rw [hrewrite]
    decide +kernel

/-- A tree is another one with the texts of the nodes at some places rewritten: it has the same nodes
in the same order, and nothing else of any node is changed. -/
structure RewrittenAt (f : String → String) (ps : List Place) (tree out : Value) : Prop where
  eq_map : out = mapTextsAt f ps tree
  places_eq : places out = places tree
  part_eq : ∀ p name, "children" ≠ name → (nodeAt p out).part name =
    if p ∈ ps then (rewriteNode f (nodeAt p tree)).part name else (nodeAt p tree).part name
  untouched : ∀ p, (∀ q ∈ ps, ¬p <+: q) → nodeAt p out = nodeAt p tree

theorem rewrittenAt_mapTextsAt (f : String → String) (ps : List Place) (tree : Value) :
    RewrittenAt f ps tree (mapTextsAt f ps tree) where
  eq_map := rfl
  places_eq := places_mapNodes (fun p => shallow_rewriteIf f (p ∈ ps)) tree
  part_eq p name hname := by
    rw [mapTextsAt, part_nodeAt_mapNodes (fun p => shallow_rewriteIf f (p ∈ ps)) p tree hname]
    by_cases hp : p ∈ ps
    · rw [if_pos hp, if_pos hp]
    · rw [if_neg hp, if_neg hp]
  untouched _ h := nodeAt_mapTextsAt h

/-- A run that fails leaves the tree as it is if the options are at fault. If a node is, it is the
first one in document order that a run does not get past, and the text nodes before it are rewritten:
a read-only one among the nodes before it, and one whose children cannot be listed along with its own
text, which was rewritten before. -/
theorem removeBreaks_failed (data tree : Value) :
    (∀ e records, (patternsOfValue data).outcome = (.error e, records) →
      removeBreaks (patternsOfValue data) tree = ⟨tree, .error (.rewrite e), records⟩) ∧
    ∀ ps records, (patternsOfValue data).outcome = (.ok ps, records) →
      (∀ s, (LineJoin.removeBreaks (.str s) data).outcome = (.ok (rewriteString ps s), records)) ∧
      let f := rewriteString ps
      let out := removeBreaks (patternsOfValue data) tree
      ∀ e, out.result = .error e → ∃ done p rest, places tree = done ++ p :: rest ∧
        (∀ q ∈ done, Passes f (nodeAt q tree)) ∧ out.records = records ∧
        ((∃ s, nodeText? "text" (nodeAt p tree) = some s ∧ f s ≠ s ∧
            e = .tree (.readOnly (nodeAt p tree).typeName) ∧ RewrittenAt f done tree out.tree) ∨
          ∃ collection, (nodeAt p tree).part "children" = collection ∧ collection.truthy = true ∧
            members collection = .error (.notIterable collection.typeName) ∧
            (∀ reason, ¬Refuses f (nodeAt p tree) reason) ∧
            e = .tree (.notIterable collection.typeName) ∧
            RewrittenAt f (done ++ [p]) tree out.tree) := by
  refine ⟨fun e records h => removeBreaks_of_error h tree, fun ps records h => ?_⟩
  refine ⟨removeBreaks_of_patterns h, ?_⟩
  rw [removeBreaks_of_ok h]
  have hends := rewriteWalk_ends (rewriteString ps) tree
  revert hends
  generalize rewriteWalk (rewriteString ps) tree = w
  rintro (_ | ⟨hplaces, hdone, s, hs, hfs, hfixed⟩ | ⟨hplaces, hdone, hrefuses, hchildren⟩)
  all_goals intro f out e he
  · cases he
  · rename_i done rest p e' _
    cases he
    refine ⟨done, p, rest, hplaces, hdone, rfl, .inl ⟨s, hs, hfs, ?_, rewrittenAt_mapTextsAt _ _ _⟩⟩
    rw [typeName_of_fixed hs hfixed]
  · rename_i done rest p e' _
    cases he
    obtain ⟨htruthy, hmembers⟩ := children_error hchildren
    obtain rfl := members_error hmembers
    exact ⟨done, p, rest, hplaces, hdone, rfl,
      .inr ⟨_, rfl, htruthy, hmembers, hrefuses, rfl, rewrittenAt_mapTextsAt _ _ _⟩⟩

/-- Three texts, the second of which cannot be set. -/
def frozenTree : Value :=
  root [textNode "字\n字", .frozen [(.str "type", .str "text"), (.str "value", .str "字\n字")],
    textNode "字\n字"]

theorem removeBreaks_failed_frozen :
    (∃ e records, (patternsOfValue (.int 5)).outcome = (.error e, records) ∧
        removeBreaks (patternsOfValue (.int 5)) frozenTree =
          ⟨frozenTree, .error (.rewrite e), records⟩) ∧
      (removeBreaks (patternsOfValue .null) frozenTree).result =
        .error (.tree (.readOnly "mappingproxy")) ∧
      ∃ f done p rest, places frozenTree = done ++ p :: rest ∧
        (∃ s, nodeText? "text" (nodeAt p frozenTree) = some s ∧ f s ≠ s) ∧
        RewrittenAt f done frozenTree (removeBreaks (patternsOfValue .null) frozenTree).tree := by
  obtain ⟨ps, hps, hrewrite⟩ := exists_patterns_default
  have hfailure : (rewriteWalk (rewriteString ps) frozenTree).failure =
      some (.readOnly "mappingproxy") := by
    rw [hrewrite]
    decide +kernel
  have hresult := result_of_failure hps hfailure
  have hoptions : (patternsOfValue (.int 5)).outcome =
      (.error (.options (.notMapping "int")), []) := by rfl
  refine ⟨⟨_, _, hoptions, (removeBreaks_failed (.int 5) frozenTree).1 _ _ hoptions⟩, hresult, ?_⟩
  obtain ⟨-, hstop⟩ := (removeBreaks_failed .null frozenTree).2 ps [] hps
  obtain ⟨done, p, rest, hplaces, -, -, ⟨s, hs, hfs, -, hout⟩ | ⟨_, -, -, -, -, he, -⟩⟩ :=
    hstop _ hresult
  · exact ⟨_, done, p, rest, hplaces, ⟨s, hs, hfs⟩, hout⟩
  · cases he

end Outcome

end Tree

end LineJoin
