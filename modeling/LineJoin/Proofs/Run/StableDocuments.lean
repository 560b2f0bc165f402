import LineJoin.Proofs.Joining.Idempotence
import LineJoin.Proofs.Json.RoundTrip
import LineJoin.Proofs.Run.Documents

/-!
# Documents that are rewritten again

Rewriting a JSON document gives a JSON document that is read as the rewritten tree, and rewriting this
one changes nothing, for rules without fragments.
-/

namespace LineJoin

open Pattern

/-! ## Rules without fragments -/

/-- A rule that admits units only. -/
structure Rule.IsBare (r : Rule) : Prop where
  before : r.before.getD "" = ""
  after : r.after.getD "" = ""

section Bare

variable {x : Extensions} {rules : List Rule}

theorem sidePattern_of_empty {side : Option String} (h : side.getD "" = "") (unit : String) :
    Rule.sidePattern unit side = Rule.sidePattern unit none := by
  cases side with
  | none => rfl
  | some fragment =>
    obtain rfl : fragment = "" := h
    rfl

theorem Rule.IsBare.keepFirstGroup {r : Rule} (h : r.IsBare) (x : Extensions) :
    ∃ p, r.compile (Units.unitText x) = .ok p ∧
      ∀ text, p.keepFirstGroup text = deleteWhere (unitsAround x) [] text := by
  obtain ⟨p, hp, hroot⟩ := compile_units x
  refine ⟨p, ?_, fun text => ?_⟩
  · unfold Rule.compile Rule.patternText at hp ⊢
    rw [sidePattern_of_empty h.before, sidePattern_of_empty h.after]
    dsimp only at hp ⊢
    revert hp
    cases Pattern.read _ with
    | ok q => exact id
    | error fault => exact fun hp => (nomatch hp)
  · refine (keepFirstGroup_eq_deleteBreaks (betweenUnits_iff x) (Units.plain_node x false)
      (Units.plain_node x false) (Units.takesOnly_node x) hroot text).trans ?_
    exact congrArg (deleteBreaks · [] text) (funext₂ betweenUnits_eq_unitsAround)

/-- Rules without fragments do together what one of them does. -/
theorem rewriteText_bare (hne : rules ≠ []) (h : ∀ r ∈ rules, r.IsBare) (x : Extensions) :
    ∃ ps, (rules.mapM fun r => r.compile (Units.unitText x)) = .ok ps ∧
      ∀ text, rewriteText ps text = deleteWhere (unitsAround x) [] text := by
  induction rules with
  | nil => exact absurd rfl hne
  | cons r rules ih =>
    obtain ⟨hr, hrules⟩ := List.forall_mem_cons.mp h
    obtain ⟨p, hp, hdelete⟩ := hr.keepFirstGroup x
    by_cases hnil : rules = []
    · subst hnil
      refine ⟨[p], ?_, hdelete⟩
      rw [List.mapM_cons, hp]
      rfl
    · obtain ⟨ps, hps, hrewrite⟩ := ih hnil hrules
      refine ⟨p :: ps, ?_, fun text => ?_⟩
      · rw [List.mapM_cons, hp, hps]
        rfl
      · have hfirst : rewriteText (p :: ps) text = rewriteText ps (p.keepFirstGroup text) := rfl
        rw [hfirst, hrewrite, hdelete, deleteWhere_idempotent between_unitsAround unseen_unitsAround]

theorem Options.isBare_rules {o : Options} (h : ∀ r ∈ o.additionalRules, r.IsBare) :
    o.rules ≠ [] ∧ ∀ r ∈ o.rules, r.IsBare := by
  rw [Options.rules]
  split
  · exact ⟨List.cons_ne_nil _ _, List.forall_mem_singleton.mpr ⟨rfl, rfl⟩⟩
  · rename_i hne
    exact ⟨fun hnil => hne (List.isEmpty_iff.mpr hnil), h⟩

/-- A text without the breaks that have units around them. -/
def joinedUnits (x : Extensions) (s : String) : String :=
  String.ofList (deleteWhere (unitsAround x) [] s.toList)

theorem joinedUnits_eq (x : Extensions) (s : String) :
    joinedUnits x s = String.ofList (deleteBreaks (betweenUnits x) [] s.toList) := by
  rw [joinedUnits, deleteWhere, ← funext₂ betweenUnits_eq_unitsAround]

theorem joinedUnits_joinedUnits (x : Extensions) (s : String) :
    joinedUnits x (joinedUnits x s) = joinedUnits x s := by
  rw [joinedUnits, joinedUnits, String.toList_ofList,
    deleteWhere_idempotent between_unitsAround unseen_unitsAround]

theorem rewriteString_bare {o : Options} (h : ∀ r ∈ o.additionalRules, r.IsBare) :
    ∃ ps, compileRules o = .ok ps ∧ rewriteString ps = joinedUnits o.extensions := by
  obtain ⟨hne, hrules⟩ := Options.isBare_rules h
  obtain ⟨ps, hps, hrewrite⟩ := rewriteText_bare hne hrules o.extensions
  exact ⟨ps, hps, funext fun s => congrArg String.ofList (hrewrite s.toList)⟩

end Bare

/-! ## Trees that can be written and read again -/

namespace Tree

open Entries Value Json

variable {f : String → String} {node tree : Value} {nodes : List Value}

/-- A value that is read again from what is written for it. -/
structure Writable (v : Value) : Prop where
  stored : Stored v
  integral : integral v = true

theorem writable_dict_iff {entries : Entries} : Writable (.dict entries) ↔
    (∀ e ∈ entries, ∃ name, e.1 = .str name) ∧ Distinct entries ∧
      ∀ e ∈ entries, Writable e.2 := by
  constructor
  · rintro ⟨hstored, hintegral⟩
    cases hstored with
    | dict hnames hdistinct hvalues =>
      have hentries := integralEntries_iff.mp hintegral
      exact ⟨hnames, hdistinct, fun e he => ⟨hvalues e he, hentries e he⟩⟩
  · rintro ⟨hnames, hdistinct, hvalues⟩
    exact ⟨.dict hnames hdistinct fun e he => (hvalues e he).stored,
      integralEntries_iff.mpr fun e he => (hvalues e he).integral⟩

theorem writable_list (h : ∀ v ∈ nodes, Writable v) : Writable (.list nodes) :=
  ⟨.list fun v hv => (h v hv).stored, integralAll_iff.mpr fun v hv => (h v hv).integral⟩

theorem writable_str (s : String) : Writable (.str s) := ⟨.str s, rfl⟩

theorem writable_null : Writable .null := ⟨.null, rfl⟩

theorem map_fst_mapFirst {κ : Type} (p : κ → Bool) (g : Value → Value)
    (entries : List (κ × Value)) : (mapFirst p g entries).map (·.1) = entries.map (·.1) := by
  induction entries with
  | nil => rfl
  | cons e rest ih =>
    rw [mapFirst]
    split
    · rfl
    · rw [List.map_cons, List.map_cons, ih]

theorem mem_mapFirst {κ : Type} {p : κ → Bool} {g : Value → Value} {entries : List (κ × Value)}
    {e : κ × Value} (h : e ∈ mapFirst p g entries) :
    e ∈ entries ∨ ∃ v, firstOf? p entries = some v ∧ e.2 = g v := by
  induction entries with
  | nil => exact absurd h List.not_mem_nil
  | cons d rest ih =>
    rw [mapFirst] at h
    rw [firstOf?_cons]
    split at h
    · rename_i hd
      rcases List.mem_cons.mp h with rfl | h
      · exact .inr ⟨d.2, if_pos hd, rfl⟩
      · exact .inl (List.mem_cons_of_mem _ h)
    · rename_i hd
      rw [if_neg hd]
      rcases List.mem_cons.mp h with rfl | h
      · exact .inl List.mem_cons_self
      · exact (ih h).imp_left (List.mem_cons_of_mem _)

theorem distinct_of_keys {entries more : Entries} (h : Distinct entries)
    (hkeys : more.map (·.1) = entries.map (·.1)) : Distinct more := by
  have hiff (entries : Entries) : Distinct entries ↔
      (entries.map (·.1)).Pairwise fun v w => v.sameKey w = false := by
    rw [Distinct, List.pairwise_map]
  rwa [hiff, hkeys, ← hiff]

/-- The keys of a mapping are no nodes that could be changed. -/
theorem putKeys_fits {entries : Entries} (hnames : ∀ e ∈ entries, ∃ name, e.1 = .str name)
    (h : Fits nodes (entries.map (·.1))) : putKeys nodes entries = entries := by
  have hkeys : nodes = entries.map (·.1) := h.eq_of_fixed fun key hkey => by
    obtain ⟨e, he, rfl⟩ := List.mem_map.mp hkey
    obtain ⟨name, hname⟩ := hnames e he
    rw [hname]
    rfl
  rw [hkeys, putKeys_keys]

theorem writable_putMembers {v : Value} (hv : Writable v) (hfits : Fits nodes (memberList v))
    (hnodes : ∀ w ∈ nodes, Writable w) : Writable (putMembers nodes v) := by
  cases v with
  | list items => exact writable_list hnodes
  | dict entries =>
    have hnames := (writable_dict_iff.mp hv).1
    rw [putMembers, putKeys_fits hnames hfits]
    exact hv
  | tuple items => nomatch hv.stored
  | set items => nomatch hv.stored
  | frozen entries => nomatch hv.stored
  | shared id v => nomatch hv.stored
  | _ => exact hv

theorem writable_part (h : Writable node) (name : String) : Writable (node.part name) := by
  obtain ⟨hstored, hintegral⟩ := h
  cases hstored with
  | dict hnames hdistinct hvalues =>
    rw [Value.part, Entries.named]
    cases hv : Entries.named? _ name with
    | none => exact writable_null
    | some v =>
      obtain ⟨e, he, -, rfl⟩ := Entries.mem_of_named? hv
      exact ⟨hvalues e he, integralEntries_iff.mp hintegral e he⟩
  | _ => exact writable_null

theorem writable_memberList {v : Value} (h : Writable v) : ∀ w ∈ memberList v, Writable w := by
  cases v with
  | list items =>
    obtain ⟨hstored, hintegral⟩ := h
    cases hstored with
    | list hitems => exact fun w hw => ⟨hitems w hw, integralAll_iff.mp hintegral w hw⟩
  | dict entries =>
    refine List.forall_mem_map.mpr fun e he => ?_
    obtain ⟨name, hname⟩ := (writable_dict_iff.mp h).1 e he
    rw [hname]
    exact writable_str name
  | str s => exact List.forall_mem_map.mpr fun c _ => writable_str _
  | tuple items => nomatch h.stored
  | set items => nomatch h.stored
  | frozen entries => nomatch h.stored
  | shared id v => nomatch h.stored
  | bytes data => nomatch h.stored
  | _ => exact fun _ hw => absurd hw List.not_mem_nil

theorem writable_child (h : Writable node) : ∀ child ∈ childList node, Writable child := by
  rw [childList_eq]
  exact writable_memberList (writable_part h "children")

theorem writable_putChildren (h : Writable node) (hfits : Fits nodes (childList node))
    (hnodes : ∀ v ∈ nodes, Writable v) : Writable (putChildren nodes node) := by
  rw [childList_eq] at hfits
  have hcollection := writable_putMembers (writable_part h "children") hfits hnodes
  cases node with
  | dict entries =>
    obtain ⟨hnames, hdistinct, hvalues⟩ := writable_dict_iff.mp h
    have hkeys := map_fst_mapFirst (·.sameKey (.str "children")) (putMembers nodes) entries
    refine writable_dict_iff.mpr ⟨fun e he => ?_, ?_, fun e he => ?_⟩
    · have hkey : e.1 ∈ entries.map (·.1) := hkeys ▸ List.mem_map_of_mem he
      obtain ⟨d, hd, hde⟩ := List.mem_map.mp hkey
      exact hde ▸ hnames d hd
    · exact distinct_of_keys hdistinct hkeys
    · rcases mem_mapFirst he with he | ⟨v, hv, hev⟩
      · exact hvalues e he
      · rw [part_dict, hv] at hcollection
        exact hev ▸ hcollection
  | frozen entries => nomatch h.stored
  | object fields => nomatch h.stored
  | shared id v => nomatch h.stored
  | _ => exact h

theorem writable_rewriteNode (h : Writable node) : Writable (rewriteNode f node) := by
  unfold rewriteNode
  split
  · exact h
  · rename_i s _
    split
    · exact h
    · cases node with
      | dict entries =>
        obtain ⟨hnames, hdistinct, hvalues⟩ := writable_dict_iff.mp h
        have hput := forall_mem_put (K := fun key => ∃ name, key = .str name)
          (fun e he => ⟨hnames e he, hvalues e he⟩) ⟨"value", rfl⟩ (writable_str (f s))
        exact writable_dict_iff.mpr ⟨fun e he => (hput e he).1, hdistinct.put _ _,
          fun e he => (hput e he).2⟩
      | frozen entries => nomatch h.stored
      | object fields => nomatch h.stored
      | shared id v => nomatch h.stored
      | _ => exact h

theorem children_mapTexts (f : String → String) (node : Value) :
    children (mapTexts f node) = (children node).map (List.map (mapTexts f)) := by
  rw [mapTexts, children_mapNodes fun _ => shallow_rewriteNode f]
  refine congrArg (Except.map · _) (funext fun nodes => ?_)
  rw [map_eq_mapIdx]
  rfl

theorem childList_mapTexts (f : String → String) (node : Value) :
    childList (mapTexts f node) = (childList node).map (mapTexts f) := by
  rw [childList, childList, children_mapTexts]
  cases children node <;> rfl

theorem fits_mapTexts (f : String → String) (nodes : List Value) :
    Fits (nodes.map (mapTexts f)) nodes := by
  rw [map_eq_mapIdx]
  exact fits_mapIdx (fun _ v hv => mapNodes_fixed (fun _ => shallow_rewriteNode f) hv) nodes

/-- A tree with its texts rewritten can be written and read again. -/
theorem writable_mapTexts (h : Writable tree) : Writable (mapTexts f tree) := by
  induction tree using tree_induction with
  | node tree ih =>
    rw [mapTexts_eq]
    refine writable_rewriteNode (writable_putChildren h (fits_mapTexts f _) ?_)
    exact List.forall_mem_map.mpr fun child hchild => ih child hchild (writable_child h child hchild)

theorem preorder_mapTexts (f : String → String) (tree : Value) :
    preorder (mapTexts f tree) = (preorder tree).map (mapTexts f) := by
  induction tree using tree_induction with
  | node tree ih =>
    rw [preorder_eq, preorder_eq, childList_mapTexts, List.map_cons, List.map_flatten,
      List.map_map, List.map_map]
    refine congrArg (fun lists => _ :: List.flatten lists) (List.map_congr_left fun child hchild => ?_)
    exact ih child hchild

/-- Children can be listed after the texts are rewritten if they could before. -/
theorem unlistable_mapTexts (h : Unlistable (mapTexts f tree)) : Unlistable tree := by
  obtain ⟨node, hnode, e, he⟩ := h
  rw [preorder_mapTexts] at hnode
  obtain ⟨old, hold, rfl⟩ := List.mem_map.mp hnode
  rw [children_mapTexts] at he
  cases hchildren : children old with
  | error e' => exact ⟨old, hold, e', hchildren⟩
  | ok nodes =>
    rw [hchildren] at he
    cases he

theorem putValue_of_fixed {e : TreeError} (h : fixed? node = some e) (value : Value) :
    putValue value node = node := by
  induction node using node_induction with
  | dict entries => cases h
  | frozen entries => rfl
  | object fields => cases h
  | shared id v ih => rw [putValue, ih h]
  | other v _ _ hput _ => exact hput value

theorem rewriteNode_rewriteNode (hf : ∀ s, f (f s) = f s) (node : Value) :
    rewriteNode f (rewriteNode f node) = rewriteNode f node := by
  by_cases hrefuses : ∃ e, Refuses f node e
  · obtain ⟨e, s, hs, hfs, hfixed⟩ := hrefuses
    rw [rewriteNode_of_text hs hfs, putValue_of_fixed hfixed, rewriteNode_of_text hs hfs,
      putValue_of_fixed hfixed]
  · have htext := nodeText?_rewriteNode fun e he => hrefuses ⟨e, he⟩
    cases hs : nodeText? "text" node with
    | none => rw [rewriteNode_of_none hs, rewriteNode_of_none hs]
    | some s =>
      rw [hs, Option.map_some] at htext
      exact rewriteNode_of_same htext (hf s)

/-- Texts that are rewritten once and for all are not changed again. -/
theorem mapTexts_mapTexts (hf : ∀ s, f (f s) = f s) (tree : Value) :
    mapTexts f (mapTexts f tree) = mapTexts f tree := by
  induction tree using tree_induction with
  | node tree ih =>
    have hchildren : (childList (mapTexts f tree)).map (mapTexts f) =
        childList (mapTexts f tree) := by
      rw [childList_mapTexts, List.map_map]
      exact List.map_congr_left ih
    rw [mapTexts_eq f (mapTexts f tree), hchildren, putChildren_childList, mapTexts_eq f tree,
      rewriteNode_rewriteNode hf]

theorem mapTexts_dict (f : String → String) (entries : Entries) :
    ∃ more, mapTexts f (.dict entries) = .dict more := by
  rw [mapTexts_eq, putChildren, mapPart, rewriteNode]
  split
  · exact ⟨_, rfl⟩
  · split
    · exact ⟨_, rfl⟩
    · exact ⟨_, rfl⟩

theorem writable_parent (nodeType : String) (h : ∀ v ∈ nodes, Writable v) :
    Writable (parent nodeType nodes) :=
  writable_dict_iff.mpr ⟨by simp, List.pairwise_pair.mpr rfl, List.forall_mem_cons.mpr
    ⟨writable_str _, List.forall_mem_singleton.mpr (writable_list h)⟩⟩

theorem writable_textNode (text : String) : Writable (textNode text) :=
  writable_dict_iff.mpr ⟨by simp, List.pairwise_pair.mpr rfl, List.forall_mem_cons.mpr
    ⟨writable_str _, List.forall_mem_singleton.mpr (writable_str text)⟩⟩

theorem writable_plainTree (text : String) : Writable (plainTree text) :=
  writable_parent _ (List.forall_mem_singleton.mpr
    (writable_parent _ (List.forall_mem_singleton.mpr (writable_textNode text))))

end Tree

namespace Document

variable {o : Options}

theorem rewriteJson_ok_iff {ps : List Pattern} {source s : String} {entries : Entries}
    (hps : compileRules o = .ok ps) (hread : Json.read source.toList = .ok (.dict entries)) :
    (rewriteJson o source).outcome.1 = .ok s ↔
      ¬Tree.Unlistable (.dict entries) ∧
      s = String.ofList (Json.write (.indented 2)
        (Tree.mapTexts (rewriteString ps) (.dict entries)) ++ ['\n']) := by
  have hfails := Tree.rewriteWalk_fails_iff (f := rewriteString ps) (Json.isJson_of_read hread)
  rw [rewriteJson, ← Libraries.removeBreaks_of_compiled {} hps,
    rewriteJsonBy_object hread, rewriteTreeBy_walked (Libraries.rewriter_of_compiled hps), ← hfails]
  cases (Tree.rewriteWalk (rewriteString ps) (.dict entries)).failure with
  | some e => exact ⟨fun h => (nomatch h), fun ⟨h, _⟩ => absurd ⟨e, rfl⟩ h⟩
  | none =>
    refine ⟨fun h => ⟨fun ⟨_, he⟩ => (nomatch he), (Except.ok.inj h).symm⟩, fun ⟨_, h⟩ => ?_⟩
    rw [h]
    rfl

/-- Without fragments, what a JSON document is rewritten to is read as the tree of the document with
the text of its text nodes rewritten, and is not changed when it is rewritten again. -/
theorem rewriteJson_stable (ho : ∀ r ∈ o.additionalRules, r.IsBare) {source s : String}
    {entries : Entries} (hread : Json.read source.toList = .ok (.dict entries))
    (hnumbers : Json.integral (.dict entries) = true)
    (hout : (rewriteJson o source).outcome.1 = .ok s) :
    ∃ ps, compileRules o = .ok ps ∧
      Json.read s.toList = .ok (Tree.mapTexts (rewriteString ps) (.dict entries)) ∧
      (rewriteJson o s).outcome.1 = .ok s := by
  obtain ⟨ps, hps, hrewrite⟩ := rewriteString_bare ho
  have hf (s : String) : rewriteString ps (rewriteString ps s) = rewriteString ps s := by
    rw [hrewrite, joinedUnits_joinedUnits]
  obtain ⟨hlistable, hs⟩ := (rewriteJson_ok_iff hps hread).mp hout
  have hwritable : Tree.Writable (Tree.mapTexts (rewriteString ps) (.dict entries)) :=
    Tree.writable_mapTexts ⟨Json.stored_of_read hread, hnumbers⟩
  have hagain : Json.read s.toList = .ok (Tree.mapTexts (rewriteString ps) (.dict entries)) := by
    rw [hs, String.toList_ofList]
    exact Json.read_write hwritable.stored hwritable.integral _ (List.forall_mem_singleton.mpr rfl)
  refine ⟨ps, hps, hagain, ?_⟩
  obtain ⟨more, hmore⟩ := Tree.mapTexts_dict (rewriteString ps) entries
  have hsame := Tree.mapTexts_mapTexts hf (.dict entries)
  rw [hmore] at hagain hsame
  refine (rewriteJson_ok_iff hps hagain).mpr ⟨fun h => hlistable ?_, ?_⟩
  · exact Tree.unlistable_mapTexts (hmore ▸ h)
  · rw [hs, hmore, hsame]

/-- A paragraph of two lines, in a document of one line. -/
theorem rewriteJson_stable_paragraph :
    let source := "\x7b\"type\": \"root\", \"children\": [\x7b\"type\": \"paragraph\", " ++
      "\"children\": [\x7b\"type\": \"text\", \"value\": \"字\\n字\"\x7d]\x7d]\x7d"
    let s := "\x7b\n  \"type\": \"root\",\n  \"children\": [\n    \x7b\n" ++
      "      \"type\": \"paragraph\",\n      \"children\": [\n        \x7b\n" ++
      "          \"type\": \"text\",\n          \"value\": \"字字\"\n        \x7d\n" ++
      "      ]\n    \x7d\n  ]\n\x7d\n"
    (∀ r ∈ ({} : Options).additionalRules, r.IsBare) ∧
      Json.read source.toList = .ok (Tree.plainTree "字\n字") ∧
      Json.integral (Tree.plainTree "字\n字") = true ∧
      (rewriteJson {} source).outcome.1 = .ok s ∧
      ∃ ps, compileRules {} = .ok ps ∧
        Json.read s.toList = .ok (Tree.mapTexts (rewriteString ps) (Tree.plainTree "字\n字")) ∧
        (rewriteJson {} s).outcome.1 = .ok s := by
  intro source s
  have hbare : ∀ r ∈ ({} : Options).additionalRules, r.IsBare := fun r hr => (nomatch hr)
  have hwritable := Tree.writable_plainTree "字\n字"
  have hread : Json.read source.toList = .ok (Tree.plainTree "字\n字") := by
    have hsource : source.toList = Json.write .oneLine (Tree.plainTree "字\n字") ++ [] := by
      decide +kernel
    rw [hsource]
    exact Json.read_write hwritable.stored hwritable.integral _ (List.forall_mem_nil _)
  obtain ⟨ps, hps, hrewrite⟩ := rewriteString_bare hbare
  have hjoined : joinedUnits {} "字\n字" = "字字" := by
    rw [joinedUnits_eq, betweenUnits_eq]
    decide +kernel
  have hs : s = String.ofList (Json.write (.indented 2) (Tree.plainTree "字字") ++ ['\n']) := by
    decide +kernel
  have hout : (rewriteJson {} source).outcome.1 = .ok s := by
    refine (rewriteJson_ok_iff hps hread).mpr ⟨Tree.not_unlistable_plainTree _, ?_⟩
    rw [hs, ← hjoined, ← hrewrite, ← Tree.mapTexts_plainTree]
    rfl
  exact ⟨hbare, hread, hwritable.integral, hout,
    rewriteJson_stable hbare hread hwritable.integral hout⟩

end Document

end LineJoin
