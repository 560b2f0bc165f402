import LineJoin.Proofs.Joining.TreeRewrite
import LineJoin.Proofs.Json.Values
import LineJoin.Run

/-!
# Documents that are refused

Plain text is refused for its rules only. A JSON document is refused as well if it is no JSON object,
or if the children of a node in it cannot be listed; no text node of it is read-only. Where halves of
pairs are left in a document there is no result.
-/

namespace LineJoin

open Json (IsJson)

namespace Tree

/-- Some node of a tree has children that cannot be listed. -/
def Unlistable (tree : Value) : Prop := ∃ node ∈ preorder tree, ∃ e, children node = .error e

section Json

variable {f : String → String} {tree node : Value}

theorem isJson_part (h : IsJson node) (name : String) : IsJson (node.part name) := by
  cases h with
  | @dict entries hkeys hvalues =>
    rw [Value.part, Entries.named]
    cases hv : Entries.named? entries name with
    | none => exact .null
    | some v =>
      obtain ⟨e, he, -, rfl⟩ := Entries.mem_of_named? hv
      exact hvalues e he
  | _ => exact .null

theorem isJson_members {nodes : List Value} {v : Value} (h : IsJson v)
    (hnodes : members v = .ok nodes) : ∀ node ∈ nodes, IsJson node := by
  cases h with
  | list hitems =>
    cases hnodes
    exact hitems
  | dict hkeys hvalues =>
    cases hnodes
    exact List.forall_mem_map.mpr hkeys
  | str s =>
    cases hnodes
    exact List.forall_mem_map.mpr fun c _ => .str _
  | _ => cases hnodes

theorem isJson_childList (h : IsJson node) : ∀ child ∈ childList node, IsJson child := by
  rw [childList_eq, memberList]
  split
  · rename_i nodes hnodes
    exact isJson_members (isJson_part h "children") hnodes
  · exact fun _ h => absurd h List.not_mem_nil

theorem isJson_nodeAt (h : IsJson tree) (p : Place) : IsJson (nodeAt p tree) := by
  induction p generalizing tree with
  | nil => exact h
  | cons i p ih =>
    rw [nodeAt]
    apply ih
    rw [List.getD_eq_getElem?_getD]
    cases hchild : (childList tree)[i]? with
    | none => exact .null
    | some child => exact isJson_childList h child (List.mem_of_getElem? hchild)

/-- Every text node of a JSON tree can be changed. -/
theorem not_refuses_of_isJson (h : IsJson node) (e : TreeError) : ¬Refuses f node e := by
  rintro ⟨s, hs, -, hfixed⟩
  cases h with
  | dict hkeys hvalues => cases hfixed
  | _ => cases hs

theorem rewriteWalk_fails_iff (h : IsJson tree) :
    (∃ e, (rewriteWalk f tree).failure = some e) ↔ Unlistable tree := by
  rw [Unlistable, ← map_nodeAt_places]
  have hends := rewriteWalk_ends f tree
  revert hends
  generalize rewriteWalk f tree = w
  rintro (hpasses | ⟨-, -, hrefuses⟩ | ⟨hplaces, -, -, hchildren⟩)
  · refine ⟨fun ⟨_, he⟩ => (nomatch he), fun ⟨node, hnode, e, he⟩ => ?_⟩
    obtain ⟨p, hp, rfl⟩ := List.mem_map.mp hnode
    obtain ⟨-, nodes, hnodes⟩ := hpasses p hp
    cases he.symm.trans hnodes
  · -- A walk can also stop at a text that must not be changed, but no JSON value has one.
    exact absurd hrefuses (not_refuses_of_isJson (isJson_nodeAt h _) _)
  · refine ⟨fun _ => ?_, fun _ => ⟨_, rfl⟩⟩
    refine ⟨_, List.mem_map_of_mem ?_, _, hchildren⟩
    rw [hplaces]
    exact List.mem_append_right _ List.mem_cons_self

theorem tree_of_rewriteWalk (h : (rewriteWalk f tree).failure = none) :
    (rewriteWalk f tree).tree = mapTexts f tree := by
  have hends := rewriteWalk_ends f tree
  revert h hends
  generalize rewriteWalk f tree = w
  rintro h (_ | _ | _)
  · exact mapTextsAt_places f tree
  · cases h
  · cases h

end Json

/-! ## Plain text -/

/-- The tree that stands for a plain text. -/
def plainTree (text : String) : Value := root [paragraph [textNode text]]

theorem isJson_parent {children : List Value} (nodeType : String)
    (h : ∀ v ∈ children, IsJson v) : IsJson (parent nodeType children) := by
  have hmembers : Json.AreJson [(.str "type", .str nodeType), (.str "children", .list children)] :=
    List.forall_mem_cons.mpr ⟨⟨.str _, .str _⟩, List.forall_mem_singleton.mpr ⟨.str _, .list h⟩⟩
  exact hmembers.dict

theorem mapTexts_textNode (f : String → String) (text : String) :
    mapTexts f (textNode text) = textNode (f text) := by
  rw [mapTexts_eq]
  change rewriteNode f (textNode text) = _
  by_cases hf : f text = text
  · rw [rewriteNode_of_same rfl hf, hf]
  · rw [rewriteNode_of_text rfl hf]
    rfl

theorem mapTexts_plainTree (f : String → String) (text : String) :
    mapTexts f (plainTree text) = plainTree (f text) := by
  have hparagraph : mapTexts f (paragraph [textNode text]) = paragraph [textNode (f text)] := by
    rw [mapTexts_eq]
    change rewriteNode f (paragraph [mapTexts f (textNode text)]) = _
    rw [mapTexts_textNode]
    rfl
  rw [mapTexts_eq]
  change rewriteNode f (root [mapTexts f (paragraph [textNode text])]) = _
  rw [hparagraph]
  rfl

theorem preorder_parent (nodeType : String) (nodes : List Value) :
    preorder (parent nodeType nodes) = parent nodeType nodes :: (nodes.map preorder).flatten := by
  rw [preorder_eq, childList_eq]
  rfl

theorem preorder_textNode (text : String) : preorder (textNode text) = [textNode text] := by
  rw [preorder_eq]
  rfl

theorem not_unlistable_plainTree (text : String) : ¬Unlistable (plainTree text) := by
  have hnodes : preorder (plainTree text) =
      [plainTree text, paragraph [textNode text], textNode text] := by
    simp only [plainTree, root, paragraph, preorder_parent, preorder_textNode, List.map_cons,
      List.map_nil, List.flatten_cons, List.flatten_nil, List.append_nil]
  rintro ⟨node, hnode, e, he⟩
  rw [hnodes] at hnode
  simp only [List.mem_cons, List.not_mem_nil, or_false] at hnode
  rcases hnode with rfl | rfl | rfl <;> cases he

theorem isJson_textNode (text : String) : IsJson (textNode text) := by
  have hmembers : Json.AreJson [(.str "type", .str "text"), (.str "value", .str text)] :=
    List.forall_mem_cons.mpr ⟨⟨.str _, .str _⟩, List.forall_mem_singleton.mpr ⟨.str _, .str _⟩⟩
  exact hmembers.dict

theorem isJson_plainTree (text : String) : IsJson (plainTree text) :=
  isJson_parent _ (List.forall_mem_singleton.mpr
    (isJson_parent _ (List.forall_mem_singleton.mpr (isJson_textNode text))))

theorem rewriteWalk_plainTree (f : String → String) (text : String) :
    (rewriteWalk f (plainTree text)).failure = none := by
  cases hfailure : (rewriteWalk f (plainTree text)).failure with
  | none => rfl
  | some e =>
    have hunlistable := (rewriteWalk_fails_iff (isJson_plainTree text)).mp ⟨e, hfailure⟩
    exact absurd hunlistable (not_unlistable_plainTree text)

theorem texts_plainTree (text : String) : texts "text" (plainTree text) = .ok [text] := rfl

end Tree

/-! ## Ways of removing line breaks -/

theorem length_of_mapM {ε α β : Type} {f : α → Except ε β} {xs : List α} {ys : List β}
    (h : xs.mapM f = .ok ys) : ys.length = xs.length := by
  induction xs generalizing ys with
  | nil =>
    cases h
    rfl
  | cons x xs ih =>
    rw [List.mapM_cons] at h
    obtain ⟨y, -, h⟩ := ok_of_bind h
    obtain ⟨rest, hrest, h⟩ := ok_of_bind h
    cases h
    rw [List.length_cons, List.length_cons, ih hrest]

namespace Libraries

variable {libs : Libraries} {o : Options}

theorem rewriter_of_compiled {ps : List Pattern} (h : compileRules o = .ok ps) :
    libs.rewriter o = .ok (rewriteString ps) := by
  rw [rewriter, h]

/-- Where all rules make patterns, line breaks are removed by these. -/
theorem removeBreaks_of_compiled (libs : Libraries) {ps : List Pattern}
    (h : compileRules o = .ok ps) :
    libs.removeBreaks o = Tree.removeBreaks (patternsOf o) := by
  funext tree
  have hpatterns : (patternsOf o).outcome = (.ok ps, []) := by
    rw [patternsOf, h]
    rfl
  rw [removeBreaks, rewriter_of_compiled h, Tree.removeBreaks, hpatterns]
  dsimp only
  rw [length_of_mapM h]

end Libraries

namespace Document

variable {libs : Libraries} {o : Options}

theorem outcome_rewriteTreeBy (removeBreaks : Value → Tree.Outcome) (tree : Value) :
    (rewriteTreeBy removeBreaks tree).outcome.1 = match (removeBreaks tree).result with
      | .ok _ => .ok (removeBreaks tree).tree
      | .error e => .error (.tree e) := rfl

theorem rewriteTreeBy_refused {f : RuleFault} (h : libs.rewriter o = .error f) (tree : Value) :
    (rewriteTreeBy (libs.removeBreaks o) tree).outcome.1 =
      .error (.tree (.rewrite (.rule f))) := by
  rw [outcome_rewriteTreeBy, Libraries.removeBreaks, h]

/-- What a walk over a tree comes to. -/
theorem rewriteTreeBy_walked {f : String → String} (h : libs.rewriter o = .ok f) (tree : Value) :
    (rewriteTreeBy (libs.removeBreaks o) tree).outcome.1 =
      match (Tree.rewriteWalk f tree).failure with
      | some e => .error (.tree (.tree e))
      | none => .ok (Tree.mapTexts f tree) := by
  rw [outcome_rewriteTreeBy, Libraries.removeBreaks, h]
  dsimp only
  rw [Tree.outcomeOf]
  cases hfailure : (Tree.rewriteWalk f tree).failure with
  | some e => rfl
  | none => exact congrArg _ (Tree.tree_of_rewriteWalk hfailure)

/-- Plain text is rewritten as a whole, if the rules make patterns. -/
theorem outcome_rewritePlainBy (libs : Libraries) (o : Options) (text : String) :
    (rewritePlainBy (libs.removeBreaks o) text).outcome.1 = match libs.rewriter o with
      | .error f => .error (.tree (.rewrite (.rule f)))
      | .ok f => .ok (f text) := by
  rw [rewritePlainBy, Logged.outcome_bind]
  · cases hrules : libs.rewriter o with
    | error f =>
      rw [rewriteTreeBy_refused hrules]
      rfl
    | ok f =>
      change (rewriteTreeBy (libs.removeBreaks o) (Tree.plainTree text)).outcome.1 >>= _ = _
      rw [rewriteTreeBy_walked hrules, Tree.rewriteWalk_plainTree, Tree.mapTexts_plainTree]
      dsimp only
      rw [ok_bind, Tree.texts_plainTree]
      exact congrArg Except.ok (String.empty_append)
  · intro tree
    split
    · exact Logged.appends_pure _
    · exact Logged.appends_throw _

theorem rewriteJsonBy_malformed {removeBreaks : Value → Tree.Outcome} {source : String}
    (h : ∀ entries, Json.read source.toList ≠ .ok (.dict entries)) :
    ∃ e, (rewriteJsonBy removeBreaks source).outcome.1 = .error e ∧ e.isHandled = true := by
  unfold rewriteJsonBy
  split
  · exact ⟨_, rfl, rfl⟩
  · rename_i entries hread
    exact absurd hread (h entries)
  · exact ⟨_, rfl, rfl⟩

theorem rewriteJsonBy_object {removeBreaks : Value → Tree.Outcome} {source : String}
    {entries : Entries} (h : Json.read source.toList = .ok (.dict entries)) :
    (rewriteJsonBy removeBreaks source).outcome.1 =
      (rewriteTreeBy removeBreaks (.dict entries)).outcome.1 >>= fun tree =>
        .ok (String.ofList (Json.write (.indented 2) tree ++ ['\n'])) := by
  unfold rewriteJsonBy
  rw [h]
  exact Logged.outcome_bind _ fun _ => Logged.appends_pure _

end Document

/-! ## Documents of a run -/

namespace Run

open Settings (valueOf)

/-- The settings ask for a JSON document. -/
def AsksForJson (config : Entries) : Prop :=
  (valueOf config "input" "tree_format").text? = some "mdast"

/-- The text is no JSON object. -/
def NoObject (source : String) : Prop := ∀ entries, Json.read source.toList ≠ .ok (.dict entries)

/-- The text is a JSON object in which some node has children that cannot be listed. -/
def BadObject (source : String) : Prop :=
  ∃ entries, Json.read source.toList = .ok (.dict entries) ∧ Tree.Unlistable (.dict entries)

section Documents

variable (libs : Libraries) (config : Entries) (o : Options)

/-- A source is refused in a way that is handled. -/
inductive Refuses : Source → Prop
  | object {s : String} (hasks : AsksForJson config) (hobject : NoObject s) : Refuses (.text s)
  | rule {s : String} {f : RuleFault} (hrules : libs.rewriter o = .error f) : Refuses (.text s)
  | halved {codes : List Nat} {e : DocumentError}
    (hresult : libs.halvedSource config o codes = .error e) (he : e.isHandled = true) :
    Refuses (.halved codes)

/-- A source ends a run by an error that is not handled. -/
inductive Breaks : Source → Prop
  | object {s : String} {f : String → String} (hasks : AsksForJson config)
    (hrules : libs.rewriter o = .ok f) (hbad : BadObject s) : Breaks (.text s)
  | halved {codes : List Nat} {e : DocumentError}
    (hresult : libs.halvedSource config o codes = .error e) (he : e.isHandled = false) :
    Breaks (.halved codes)

/-- Halves are left in what a source is rewritten to. Without fragments all halves of a JSON object
are. -/
inductive LeavesHalf : Source → Prop
  | object {s : String} {f : String → String} (hasks : AsksForJson config)
    (hrules : libs.rewriter o = .ok f) (hobject : ¬NoObject s) (hlisted : ¬BadObject s)
    (hhalf : Json.holdsHalf s.toList = true)
    (hleft : (∀ r ∈ o.additionalRules, r.isBare = true) ∨ libs.halvedDocument o s = none) :
    LeavesHalf (.text s)
  | halved {codes : List Nat} (hresult : libs.halvedSource config o codes = .ok none) :
    LeavesHalf (.halved codes)

end Documents

variable {libs : Libraries} {config : Entries} {o : Options} {source : Source} {s : String}

theorem rewrite_json (h : AsksForJson config) (libs : Libraries) (o : Options) (s : String) :
    (rewrite libs config o (.text s)).outcome.1 =
      (Document.rewriteJsonBy (libs.removeBreaks o) s).outcome.1 >>= fun result =>
        .ok (libs.resultFor o s result) := by
  unfold AsksForJson at h
  rw [rewrite, if_pos h]
  exact Logged.outcome_bind _ fun _ => Logged.appends_pure _

theorem rewrite_plain (h : ¬AsksForJson config) (libs : Libraries) (o : Options) (s : String) :
    (rewrite libs config o (.text s)).outcome.1 =
      (Document.rewritePlainBy (libs.removeBreaks o) s).outcome.1 >>= fun result =>
        .ok (some result) := by
  unfold AsksForJson at h
  rw [rewrite, if_neg h]
  exact Logged.outcome_bind _ fun _ => Logged.appends_pure _

/-- A document whose rules make patterns and whose nodes can be listed is rewritten. -/
theorem rewrite_listed {f : String → String} (hasks : AsksForJson config)
    (hrules : libs.rewriter o = .ok f) (hobject : ¬NoObject s) (hlisted : ¬BadObject s) :
    ∃ result, (rewrite libs config o (.text s)).outcome.1 = .ok (libs.resultFor o s result) := by
  obtain ⟨entries, hread⟩ := not_forall_not.mp hobject
  have hfails := Tree.rewriteWalk_fails_iff (f := f) (Json.isJson_of_read hread)
  rw [rewrite_json hasks, Document.rewriteJsonBy_object hread,
    Document.rewriteTreeBy_walked hrules]
  cases hfailure : (Tree.rewriteWalk f (.dict entries)).failure with
  | some e => exact absurd ⟨entries, hread, hfails.mp ⟨e, hfailure⟩⟩ hlisted
  | none => exact ⟨_, rfl⟩

theorem resultFor_eq_none_iff {result : String} :
    libs.resultFor o s result = none ↔ Json.holdsHalf s.toList = true ∧
      ((∀ r ∈ o.additionalRules, r.isBare = true) ∨ libs.halvedDocument o s = none) := by
  rw [Libraries.resultFor, ← List.all_eq_true]
  cases Json.holdsHalf s.toList with
  | false => exact ⟨nofun, fun h => absurd h.1 Bool.false_ne_true⟩
  | true => cases o.additionalRules.all (·.isBare) <;> simp

theorem rewrite_malformed (hasks : AsksForJson config) (hobject : NoObject s) :
    ∃ e, (rewrite libs config o (.text s)).outcome.1 = .error e ∧ e.isHandled = true := by
  obtain ⟨e, he, hhandled⟩ := Document.rewriteJsonBy_malformed hobject
  refine ⟨e, ?_, hhandled⟩
  rw [rewrite_json hasks, he, error_bind]

theorem Refuses.outcome (h : Refuses libs config o source) :
    ∃ e, (rewrite libs config o source).outcome.1 = .error e ∧ e.isHandled = true := by
  cases h with
  | object hasks hobject => exact rewrite_malformed hasks hobject
  | @rule s f hrules =>
    by_cases hasks : AsksForJson config
    · by_cases hobject : NoObject s
      · exact rewrite_malformed hasks hobject
      · obtain ⟨entries, hread⟩ := not_forall_not.mp hobject
        rw [rewrite_json hasks, Document.rewriteJsonBy_object hread,
          Document.rewriteTreeBy_refused hrules]
        exact ⟨_, rfl, rfl⟩
    · rw [rewrite_plain hasks, Document.outcome_rewritePlainBy, hrules]
      exact ⟨_, rfl, rfl⟩
  | halved hresult he => exact ⟨_, hresult, he⟩

theorem Breaks.outcome (h : Breaks libs config o source) :
    ∃ e, (rewrite libs config o source).outcome.1 = .error e ∧ e.isHandled = false := by
  cases h with
  | @object s f hasks hrules hbad =>
    obtain ⟨entries, hread, hunlistable⟩ := hbad
    obtain ⟨e, he⟩ := (Tree.rewriteWalk_fails_iff (f := f) (Json.isJson_of_read hread)).mpr hunlistable
    rw [rewrite_json hasks, Document.rewriteJsonBy_object hread,
      Document.rewriteTreeBy_walked hrules, he]
    exact ⟨_, rfl, rfl⟩
  | halved hresult he => exact ⟨_, hresult, he⟩

theorem LeavesHalf.outcome (h : LeavesHalf libs config o source) :
    (rewrite libs config o source).outcome.1 = .ok none := by
  cases h with
  | object hasks hrules hobject hlisted hhalf hleft =>
    obtain ⟨result, hresult⟩ := rewrite_listed hasks hrules hobject hlisted
    rw [hresult, resultFor_eq_none_iff.mpr ⟨hhalf, hleft⟩]
  | halved hresult => exact hresult

/-- A source is refused, breaks the run, has halves left in it, or there is a result. -/
theorem rewrite_cases (libs : Libraries) (config : Entries) (o : Options) (source : Source) :
    Refuses libs config o source ∨ Breaks libs config o source ∨
      LeavesHalf libs config o source ∨
      ∃ result, (rewrite libs config o source).outcome.1 = .ok (some result) := by
  cases source with
  | halved codes =>
    cases hresult : libs.halvedSource config o codes with
    | error e =>
      cases he : e.isHandled with
      | true => exact .inl (.halved hresult he)
      | false => exact .inr (.inl (.halved hresult he))
    | ok result =>
      cases result with
      | none => exact .inr (.inr (.inl (.halved hresult)))
      | some result => exact .inr (.inr (.inr ⟨result, hresult⟩))
  | text s =>
    cases hrules : libs.rewriter o with
    | error f => exact .inl (.rule hrules)
    | ok f =>
      by_cases hasks : AsksForJson config
      · by_cases hobject : NoObject s
        · exact .inl (.object hasks hobject)
        · by_cases hbad : BadObject s
          · exact .inr (.inl (.object hasks hrules hbad))
          · obtain ⟨result, hresult⟩ := rewrite_listed hasks hrules hobject hbad
            cases hfinal : libs.resultFor o s result with
            | none =>
              obtain ⟨hhalf, hleft⟩ := resultFor_eq_none_iff.mp hfinal
              exact .inr (.inr (.inl (.object hasks hrules hobject hbad hhalf hleft)))
            | some final => exact .inr (.inr (.inr ⟨final, hfinal ▸ hresult⟩))
      · refine .inr (.inr (.inr ⟨f s, ?_⟩))
        rw [rewrite_plain hasks, Document.outcome_rewritePlainBy, hrules]
        rfl

theorem rewrite_refused_iff :
    (∃ e, (rewrite libs config o source).outcome.1 = .error e ∧ e.isHandled = true) ↔
      Refuses libs config o source := by
  refine ⟨fun ⟨e, h, he⟩ => ?_, Refuses.outcome⟩
  rcases rewrite_cases libs config o source with hrefuses | hbreaks | hleaves | ⟨result, hresult⟩
  · exact hrefuses
  · obtain ⟨e', h', he'⟩ := hbreaks.outcome
    cases h.symm.trans h'
    cases he.symm.trans he'
  · cases h.symm.trans hleaves.outcome
  · cases h.symm.trans hresult

theorem rewrite_leaves_iff :
    (rewrite libs config o source).outcome.1 = .ok none ↔ LeavesHalf libs config o source := by
  refine ⟨fun h => ?_, LeavesHalf.outcome⟩
  rcases rewrite_cases libs config o source with hrefuses | hbreaks | hleaves | ⟨result, hresult⟩
  · obtain ⟨e, h', -⟩ := hrefuses.outcome
    cases h.symm.trans h'
  · obtain ⟨e, h', -⟩ := hbreaks.outcome
    cases h.symm.trans h'
  · exact hleaves
  · cases h.symm.trans hresult

end Run

end LineJoin
