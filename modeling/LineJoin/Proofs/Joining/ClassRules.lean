import LineJoin.Proofs.Joining.Containment
import LineJoin.Proofs.Joining.Successive
import LineJoin.Proofs.Pattern.ClassExtent

/-!
# Rules whose fragments are bracket classes

A bracket class stands for one character wherever it is pasted, so without emoji a rule with such
fragments looks at the character before a break and the character after it. Such rules delete
together what each of them deletes alone: the order of the rules does not matter, nor how often one
of them is given, and a further rule only deletes more.
-/

namespace LineJoin

open Pattern

/-- There is no fragment, or it is one bracket class that takes no line break. -/
def ClassSide (fragment : Option String) : Prop :=
  ∀ f, fragment = some f → f ≠ "" →
    ∃ test, IsClass f.toList test ∧ Units.avoidsBreaks test = true

/-- There is no fragment, or it is one bracket class. -/
def BracketSide (fragment : Option String) : Prop :=
  ∀ f, fragment = some f → f ≠ "" → ∃ test, IsClass f.toList test

theorem ClassSide.bracketSide {fragment : Option String} (h : ClassSide fragment) :
    BracketSide fragment := by
  intro f hf hne
  obtain ⟨test, htest, -⟩ := h f hf hne
  exact ⟨test, htest⟩

/-- Whether a fragment matches a character, as a pattern of its own. -/
def fragmentAccepts (fragment : String) (c : Char) : Bool :=
  match Pattern.read fragment.toList with
  | .ok p => p.root.matchesAll [c]
  | .error _ => false

/-- Whether there is a fragment on a side that matches a character. -/
def fragmentTakes (side : Option String) (c : Char) : Bool :=
  side.any fun fragment => fragment != "" && fragmentAccepts fragment c

/-- A character is admitted on a side if it is a unit or the fragment there, if any, matches it. -/
def admitsChar (x : Extensions) (side : Option String) (c : Char) : Bool :=
  isUnit x [c] || side.any fun fragment => fragment != "" && fragmentAccepts fragment c

namespace Rule

structure HasClassSides (r : Rule) : Prop where
  before : ClassSide r.before
  after : ClassSide r.after

/-- The character before a break and the one after it are admitted on their sides. -/
def joins (x : Extensions) (r : Rule) : BreakTest := fun before next =>
  before.head?.any (admitsChar x r.before) && next.any (admitsChar x r.after)

/-- The tree of a side with a class, and the texts that it takes. -/
structure ClassTree (x : Extensions) (side : Option String) (n : Node Nat) : Prop where
  read : ∃ (text : List Char) (m : Bool → Node Ref),
    (sidePattern (Units.unitText x) side).toList = '(' :: text ∧ ReadsElement ('(' :: text) m ∧
      ∀ f : Ref → Except Fault Nat, (m false).resolve f = .ok n
  plain : n.Plain
  texts : ∀ t, n.Matches t ↔ isUnit x t = true ∨ ∃ c, fragmentTakes side c = true ∧ t = [c]
  kind : (∀ c, fragmentTakes side c = true → isBreakChar c = false) →
    n.TakesOnly fun c => isBreakChar c = false

/-- The tree of a side with a class, and the characters that it takes when emoji are no units. -/
structure SideTree (x : Extensions) (fragment : Option String) (n : Node Nat) : Prop where
  read : ∃ (text : List Char) (m : Bool → Node Ref),
    (sidePattern (Units.unitText x) fragment).toList = '(' :: text ∧
      ReadsElement ('(' :: text) m ∧
      ∀ f : Ref → Except Fault Nat, (m false).resolve f = .ok n
  plain : n.Plain
  kind : n.TakesOnly fun c => isBreakChar c = false
  chars : x.emoji = false → ∀ t, n.Matches t ↔ ∃ c, admitsChar x fragment c = true ∧ t = [c]

end Rule

section Sides

variable {x : Extensions} {fragment : String} {test : CharTest}

/-- A class that is a pattern of its own. -/
theorem read_class (h : IsClass fragment.toList test) :
    ∃ p, Pattern.read fragment.toList = .ok p ∧ p.root = .char false test := by
  obtain ⟨v, hwhole⟩ := run_readWhole_element h.readsElement {}
  exact ⟨_, read_of_readWhole hwhole rfl, rfl⟩

theorem fragmentAccepts_class (h : IsClass fragment.toList test) (c : Char) :
    fragmentAccepts fragment c = acceptsChar false test c := by
  obtain ⟨p, hp, hroot⟩ := read_class h
  rw [Bool.eq_iff_iff, fragmentAccepts, hp]
  simp only [hroot, Node.matchesAll_char_iff]
  constructor
  · rintro ⟨d, hd, hcd⟩
    exact (List.cons.inj hcd).1 ▸ hd
  · exact fun hc => ⟨c, hc, rfl⟩

theorem fragmentTakes_class (hne : fragment ≠ "") (h : IsClass fragment.toList test) :
    fragmentTakes (some fragment) = acceptsChar false test := by
  funext c
  rw [fragmentTakes, Option.any_some, bne_iff_ne.mpr hne, Bool.true_and, fragmentAccepts_class h]

theorem admitsChar_none : admitsChar x none = fun c => (Units.node x false).matchesAll [c] := by
  funext c
  rw [admitsChar, isUnit_eq]
  exact Bool.or_false _

theorem admitsChar_class (hne : fragment ≠ "") (h : IsClass fragment.toList test) :
    admitsChar x (some fragment) = fun c =>
      (Units.node x false).matchesAll [c] || acceptsChar false test c := by
  funext c
  rw [← isUnit_eq, ← fragmentTakes_class hne h]
  rfl

theorem ClassSide.isBreakChar {side : Option String} (h : ClassSide side) {c : Char}
    (hc : fragmentTakes side c = true) : isBreakChar c = false := by
  obtain ⟨f, rfl, hf⟩ := (Option.any_eq_true _ _).mp hc
  obtain ⟨hne, haccepts⟩ := Bool.and_eq_true_iff.mp hf
  obtain ⟨test, htest, havoids⟩ := h f rfl (bne_iff_ne.mp hne)
  rw [fragmentAccepts_class htest] at haccepts
  exact Units.takesOnly_char havoids c haccepts

/-- Without emoji units are single characters. -/
theorem matches_unit_iff (hemoji : x.emoji = false) (t : List Char) :
    (Units.node x false).Matches t ↔ ∃ c, isUnit x [c] = true ∧ t = [c] := by
  have hnode : (Units.node x false : Node Nat) =
      .char false (.set true (Units.classItems (Units.properties x) (Units.spans x))) := by
    rw [Units.node, Units.branches, hemoji]
    rfl
  simp only [isUnit_iff, hnode, Node.matches_char_iff]
  constructor
  · rintro ⟨c, hc, rfl⟩
    exact ⟨c, ⟨c, hc, rfl⟩, rfl⟩
  · rintro ⟨c, ⟨d, hd, hcd⟩, rfl⟩
    exact ⟨c, (List.cons.inj hcd).1 ▸ hd, rfl⟩

namespace Rule

theorem classTree_unit {side : Option String}
    (htext : (sidePattern (Units.unitText x) side).toList = Units.plainText x)
    (hnone : ∀ c, fragmentTakes side c = false) : ClassTree x side (Units.node x false) where
  read := ⟨_, Units.node x, htext, readsElement_unit x, fun f => resolve_unitNode f x false⟩
  plain := Units.plain_node x false
  texts t := by simp [hnone, isUnit_iff]
  kind _ := Units.takesOnly_node x

/-- The branches of a unit and a class in parentheses of its own. -/
theorem readsElement_sideText (x : Extensions) (h : IsClass fragment.toList test) :
    ReadsElement (Units.sideText x fragment.toList)
      fun i => Units.sideNode x i (.char i test) := by
  obtain ⟨hread, hbar, hlen⟩ := Units.readsBranches_moreText x
  have hinside : ReadsElement (inParentheses fragment.toList) fun i => .char i test :=
    readsElement_group (h.readsElement.alternatives (by obtain ⟨_, _, h, -⟩ := h; simp [h]))
  have hfragment := readsBranches_cons (readsSequence_one (List.cons_ne_nil _ _) hinside)
    (.inl rfl) readsBranches_nil
  rw [List.append_nil] at hfragment
  have hmore := readsBranches_append hread hlen (.inr ⟨_, rfl⟩) hfragment
  have hbarred : Barred (Units.moreText x ++ '|' :: inParentheses fragment.toList) := by
    rcases hbar with h | ⟨r, h⟩ <;> rw [h] <;> exact .inr ⟨_, rfl⟩
  have hunit := readsAlternatives_of (Units.readsSequence_baseText x) hbarred hmore
    (by simp only [List.length_append, List.length_cons, List.length_nil]; omega)
  have hside := readsElement_group hunit
  rw [← List.append_assoc, ← Units.unitText_toList] at hside
  have htext : Units.sideText x fragment.toList = '(' :: '?' :: ':' ::
      ((Units.unitText x).toList ++ '|' :: inParentheses fragment.toList ++ [')']) := by
    simp [Units.sideText]
  have hnode : (fun i : Bool => (Units.sideNode x i (.char i test) : Node Ref)) = fun i =>
      .branches ((Units.branches x ++ [fun i => .char i test] : List (Bool → Node Ref)).map (· i)) := by
    funext i
    rw [Units.sideNode, List.map_append]
    rfl
  rw [htext, hnode]
  exact hside

theorem classTree_class (x : Extensions) (hne : fragment ≠ "")
    (h : IsClass fragment.toList test) :
    ClassTree x (some fragment) (Units.sideNode x false (.char false test)) where
  read := ⟨_, _, Units.sideText_toList x hne, readsElement_sideText x h,
    fun _ => Units.resolve_sideNode x false rfl⟩
  plain := Units.plain_sideNode x trivial
  texts t := by
    simp only [Units.matches_sideNode_iff, Node.matches_char_iff, fragmentTakes_class hne h]
  kind havoids := by
    refine Units.takesOnly_sideNode x fun c hc => havoids c ?_
    rwa [fragmentTakes_class hne h]

theorem exists_classTree (x : Extensions) {side : Option String} (h : BracketSide side) :
    ∃ n, ClassTree x side n := by
  match side, h with
  | none, _ => exact ⟨_, classTree_unit (Units.plainText_toList x) fun _ => rfl⟩
  | some fragment, h =>
    by_cases hne : fragment = ""
    · subst hne
      exact ⟨_, classTree_unit (Units.plainText_toList x) fun _ => rfl⟩
    · obtain ⟨test, htest⟩ := h fragment rfl hne
      exact ⟨_, classTree_class x hne htest⟩

/-- Without emoji a side takes single characters, those that are admitted there. -/
theorem ClassTree.chars {side : Option String} {n : Node Nat} (h : ClassTree x side n)
    (hemoji : x.emoji = false) (t : List Char) :
    n.Matches t ↔ ∃ c, admitsChar x side c = true ∧ t = [c] := by
  have hunit : isUnit x t = true ↔ ∃ c, isUnit x [c] = true ∧ t = [c] := by
    rw [isUnit_iff, matches_unit_iff hemoji]
  simp only [h.texts, hunit, admitsChar, Bool.or_eq_true, or_and_right, exists_or]
  rfl

theorem ClassTree.sideTree {side : Option String} {n : Node Nat} (h : ClassTree x side n)
    (hside : ClassSide side) : SideTree x side n where
  read := h.read
  plain := h.plain
  kind := h.kind fun _ => hside.isBreakChar
  chars hemoji := h.chars hemoji

theorem exists_sideTree (x : Extensions) {side : Option String} (h : ClassSide side) :
    ∃ n, SideTree x side n := by
  obtain ⟨n, hn⟩ := exists_classTree x h.bracketSide
  exact ⟨n, hn.sideTree h⟩

/-- A rule makes a pattern with the trees of its two sides. -/
theorem compile_of_classTrees {r : Rule} {b a : Node Nat} (hb : ClassTree x r.before b)
    (ha : ClassTree x r.after a) :
    ∃ p, r.compile (Units.unitText x) = .ok p ∧ p.root = Rule.node false b a := by
  obtain ⟨y, m, hy, hreadBefore, hresolveBefore⟩ := hb.read
  obtain ⟨z, n, hz, hreadAfter, hresolveAfter⟩ := ha.read
  exact compile_of_elements hy hz hreadBefore hreadAfter hresolveBefore hresolveAfter

/-- A rule with bracket classes makes a pattern. -/
theorem exists_compile (x : Extensions) {r : Rule} (h : r.HasClassSides) :
    ∃ p b a, r.compile (Units.unitText x) = .ok p ∧ p.root = Rule.node false b a ∧
      SideTree x r.before b ∧ SideTree x r.after a := by
  obtain ⟨b, hb⟩ := exists_classTree x h.before.bracketSide
  obtain ⟨a, ha⟩ := exists_classTree x h.after.bracketSide
  obtain ⟨p, hp, hroot⟩ := compile_of_classTrees hb ha
  exact ⟨p, b, a, hp, hroot, hb.sideTree h.before, ha.sideTree h.after⟩

end Rule

end Sides

section Characters

variable (p : Char → Bool)

/-- A text, given with the nearest character first, ends with one character of a kind. -/
theorem exists_char_suffix_iff (before : List Char) :
    (∃ u, (∃ c, p c = true ∧ u = [c]) ∧ u <:+ before.reverse) ↔
      before.head?.any p = true := by
  rw [Option.any_eq_true]
  constructor
  · rintro ⟨_, ⟨c, hc, rfl⟩, r, hr⟩
    have hbefore := congrArg List.reverse hr
    rw [List.reverse_append, List.reverse_reverse] at hbefore
    exact ⟨c, by rw [← hbefore]; rfl, hc⟩
  · rintro ⟨c, hhead, hc⟩
    obtain ⟨r, rfl⟩ := List.head?_eq_some_iff.mp hhead
    exact ⟨[c], ⟨c, hc, rfl⟩, r.reverse, by rw [List.reverse_cons]⟩

theorem exists_char_prefix_iff (after : List Char) :
    (∃ v, (∃ c, p c = true ∧ v = [c]) ∧ v <+: after) ↔ after.head?.any p = true := by
  rw [Option.any_eq_true]
  constructor
  · rintro ⟨_, ⟨c, hc, rfl⟩, r, rfl⟩
    exact ⟨c, rfl, hc⟩
  · rintro ⟨c, hhead, hc⟩
    obtain ⟨r, rfl⟩ := List.head?_eq_some_iff.mp hhead
    exact ⟨[c], ⟨c, hc, rfl⟩, r, rfl⟩

end Characters

section Joins

variable {x : Extensions} (hemoji : x.emoji = false)

namespace Rule

include hemoji

theorem SideTree.isBreakChar {fragment : Option String} {n : Node Nat}
    (h : SideTree x fragment n) {c : Char} (hc : admitsChar x fragment c = true) :
    isBreakChar c = false :=
  ((h.chars hemoji [c]).mpr ⟨c, hc, rfl⟩).forall_mem h.kind c List.mem_cons_self

theorem SideTree.endsText_iff {fragment : Option String} {n : Node Nat}
    (h : SideTree x fragment n) (before : List Char) :
    n.EndsText before ↔ before.head?.any (admitsChar x fragment) = true := by
  simp only [Node.EndsText, h.chars hemoji, exists_char_suffix_iff]

theorem SideTree.beginsText_iff {fragment : Option String} {n : Node Nat}
    (h : SideTree x fragment n) (after : List Char) :
    n.BeginsText after ↔ after.head?.any (admitsChar x fragment) = true := by
  simp only [Node.BeginsText, h.chars hemoji, exists_char_prefix_iff]

theorem between_joins {r : Rule} (h : r.HasClassSides) : (r.joins x).Between := by
  obtain ⟨b, hb⟩ := exists_sideTree x h.before
  obtain ⟨a, ha⟩ := exists_sideTree x h.after
  constructor
  · intro c rest next hc
    rw [joins, Bool.and_eq_false_iff]
    refine .inl (Bool.eq_false_iff.mpr fun hadmits => ?_)
    rw [hb.isBreakChar hemoji hadmits] at hc
    cases hc
  · intro rest next hjoins
    cases next with
    | none => cases (Bool.and_eq_true_iff.mp hjoins).2
    | some c => exact ⟨c, rfl, ha.isBreakChar hemoji (Bool.and_eq_true_iff.mp hjoins).2⟩

/-- A rule with bracket classes deletes the breaks that it joins. -/
theorem keepFirstGroup_eq_deleteWhere {r : Rule} (h : r.HasClassSides) :
    ∃ p, r.compile (Units.unitText x) = .ok p ∧
      ∀ text, p.keepFirstGroup text = deleteWhere (r.joins x) [] text := by
  obtain ⟨p, b, a, hp, hroot, hb, ha⟩ := exists_compile x h
  refine ⟨p, hp, fun text => ?_⟩
  refine keepFirstGroup_eq_deleteBreaks (fun before after => ?_) hb.plain ha.plain hb.kind hroot text
  rw [hb.endsText_iff hemoji, ha.beginsText_iff hemoji]
  exact Bool.and_eq_true_iff

end Rule

/-- Some rule joins what stands around a break. -/
def joinedBySome (x : Extensions) (rules : List Rule) : BreakTest := fun before next =>
  rules.any fun r => r.joins x before next

/-- Only the character before a break counts, so a break deleted further back is not seen. -/
theorem unseen_joinedBySome (d : BreakTest) (rules : List Rule) :
    d.Unseen (joinedBySome x rules) := by
  intro u c b v next _ _
  have hhead : (v ++ c :: (b ++ u)).head? = (v ++ c :: u).head? := by
    cases v <;> rfl
  simp only [joinedBySome, Rule.joins, hhead]

theorem deleteWhere_never (before text : List Char) :
    deleteWhere (fun _ _ => false) before text = text := by
  induction text using token_induction generalizing before with
  | nil => rfl
  | char c rest hc ih => rw [deleteWhere_char hc, ih]
  | token b rest hb ih =>
    rw [deleteWhere_break hb, ih rest (List.suffix_refl _)]
    rfl

include hemoji

theorem between_joinedBySome {rules : List Rule} (hrules : ∀ r ∈ rules, r.HasClassSides) :
    (joinedBySome x rules).Between := by
  constructor
  · intro c rest next hc
    rw [joinedBySome, List.any_eq_false]
    intro r hr
    rw [(Rule.between_joins hemoji (hrules r hr)).before c rest next hc]
    exact Bool.false_ne_true
  · intro rest next hjoins
    obtain ⟨r, hr, hjoins⟩ := List.any_eq_true.mp hjoins
    exact (Rule.between_joins hemoji (hrules r hr)).after rest next hjoins

/-- Rules with bracket classes, one after the other, delete the breaks that some of them joins. -/
theorem rewriteText_eq_deleteWhere {rules : List Rule} (hrules : ∀ r ∈ rules, r.HasClassSides) :
    ∃ ps, (rules.mapM fun r => r.compile (Units.unitText x)) = .ok ps ∧
      ∀ text, rewriteText ps text = deleteWhere (joinedBySome x rules) [] text := by
  induction rules with
  | nil => exact ⟨[], rfl, fun text => (deleteWhere_never [] text).symm⟩
  | cons r rules ih =>
    obtain ⟨hr, hrules⟩ := List.forall_mem_cons.mp hrules
    obtain ⟨p, hp, hdelete⟩ := Rule.keepFirstGroup_eq_deleteWhere hemoji hr
    obtain ⟨ps, hps, hrewrite⟩ := ih hrules
    refine ⟨p :: ps, ?_, fun text => ?_⟩
    · rw [List.mapM_cons, hp, hps]
      rfl
    · have hfirst : rewriteText (p :: ps) text = rewriteText ps (p.keepFirstGroup text) := rfl
      rw [hfirst, hdelete, hrewrite, deleteWhere_deleteWhere (Rule.between_joins hemoji hr)
        (unseen_joinedBySome _ _)]
      rfl

end Joins

/-- Options whose patterns delete where a condition holds give that text. -/
theorem removeBreaks_deleteWhere {data : Value} {o : Options} {records : List Record}
    {ps : List Pattern} {d : BreakTest} (ho : (Options.ofValue data).outcome = (.ok o, records))
    (hps : compileRules o = .ok ps) (hdelete : ∀ t, rewriteText ps t = deleteWhere d [] t)
    (text : String) : (removeBreaks (.str text) data).outcome =
      (.ok (String.ofList (deleteWhere d [] text.toList)), records) := by
  rw [removeBreaks_outcome ho hps, rewriteString, hdelete]

theorem joinedBySome_of_subset {x : Extensions} {rules rules' : List Rule}
    (h : ∀ r ∈ rules, r ∈ rules') (before : List Char) (next : Option Char)
    (hjoins : joinedBySome x rules before next = true) :
    joinedBySome x rules' before next = true := by
  obtain ⟨r, hr, hjoins⟩ := List.any_eq_true.mp hjoins
  exact List.any_eq_true.mpr ⟨r, h r hr, hjoins⟩

/-- Without emoji, rules with bracket classes remove the breaks that some rule joins. Further rules
remove further breaks only, and rules that are given in another order or again change nothing. -/
theorem removeBreaks_joinedBySome {data : Value} {o : Options} {records : List Record}
    (ho : (Options.ofValue data).outcome = (.ok o, records)) (hemoji : o.extensions.emoji = false)
    (hrules : ∀ r ∈ o.rules, r.HasClassSides) (text : String) :
    (removeBreaks (.str text) data).outcome =
        (.ok (String.ofList
          (deleteWhere (joinedBySome o.extensions o.rules) [] text.toList)), records) ∧
      ∀ (data' : Value) (o' : Options) (records' : List Record),
        (Options.ofValue data').outcome = (.ok o', records') → o'.extensions = o.extensions →
        (∀ r ∈ o'.rules, r.HasClassSides) → (∀ r ∈ o.rules, r ∈ o'.rules) →
        ∃ out out', (removeBreaks (.str text) data).outcome = (.ok out, records) ∧
          (removeBreaks (.str text) data').outcome = (.ok out', records') ∧
          Trimmed out.toList out'.toList ∧ ((∀ r ∈ o'.rules, r ∈ o.rules) → out' = out) := by
  obtain ⟨ps, hps, hdelete⟩ := rewriteText_eq_deleteWhere hemoji hrules
  have hout := removeBreaks_deleteWhere ho hps hdelete text
  refine ⟨hout, fun data' o' records' ho' hx hrules' hsubset => ?_⟩
  obtain ⟨ps', hps', hdelete'⟩ := rewriteText_eq_deleteWhere (hx ▸ hemoji) hrules'
  have hout' := removeBreaks_deleteWhere ho' hps' hdelete' text
  rw [hx] at hout'
  refine ⟨_, _, hout, hout', ?_, fun hback => ?_⟩
  · rw [String.toList_ofList, String.toList_ofList,
      ← deleteWhere_of_imp (between_joinedBySome hemoji hrules) (unseen_joinedBySome _ o'.rules)
        (joinedBySome_of_subset hsubset)]
    exact trimmed_deleteWhere _ _ _
  · have hsame : joinedBySome o.extensions o'.rules = joinedBySome o.extensions o.rules := by
      funext before next
      rw [Bool.eq_iff_iff]
      exact ⟨joinedBySome_of_subset hback before next, joinedBySome_of_subset hsubset before next⟩
    rw [hsame]

theorem classSide_none : ClassSide none := fun _ h => nomatch h

/-- Options without further rules have one rule, which has no fragments. -/
theorem Options.hasClassSides {o : Options} (h : ∀ r ∈ o.additionalRules, r.HasClassSides) :
    ∀ r ∈ o.rules, r.HasClassSides := by
  rw [Options.rules]
  split
  · exact List.forall_mem_singleton.mpr ⟨classSide_none, classSide_none⟩
  · exact h

theorem bracketSide_of_isClass {fragment : String} {test : CharTest}
    (h : IsClass fragment.toList test) : BracketSide (some fragment) := by
  intro f hf _
  cases hf
  exact ⟨test, h⟩

theorem classSide_of_isClass {fragment : String} {test : CharTest}
    (h : IsClass fragment.toList test) (havoids : Units.avoidsBreaks test = true) :
    ClassSide (some fragment) := by
  intro f hf _
  cases hf
  exact ⟨test, h, havoids⟩

theorem Rule.hasClassSides_letters : HasClassSides ⟨some "[a-z]", none⟩ :=
  ⟨classSide_of_isClass isClass_letters (by decide), classSide_none⟩

/-- A letter is admitted before a break and a digit after it, by rules given in either order. -/
theorem removeBreaks_joinedBySome_ascii :
    let letter : Rule := ⟨some "[a-z]", none⟩
    let digit : Rule := ⟨none, some "[0-9]"⟩
    let data : Value := .dict [(.str "additionalRegexpPairs", .list [.rule letter, .rule digit])]
    let data' : Value := .dict
      [(.str "additionalRegexpPairs", .list [.rule digit, .rule letter, .rule digit])]
    let o : Options := { additionalRules := [letter, digit] }
    let o' : Options := { additionalRules := [digit, letter, digit] }
    ((Options.ofValue data).outcome = (.ok o, []) ∧ o.extensions.emoji = false ∧
        ∀ r ∈ o.rules, r.HasClassSides) ∧
      ((Options.ofValue data').outcome = (.ok o', []) ∧ o'.extensions = o.extensions ∧
        (∀ r ∈ o'.rules, r.HasClassSides) ∧ (∀ r ∈ o.rules, r ∈ o'.rules) ∧
        ∀ r ∈ o'.rules, r ∈ o.rules) ∧
      (removeBreaks (.str "a\n字\r\n1\nb") data).outcome = (.ok "a字1\nb", []) ∧
      (removeBreaks (.str "a\n字\r\n1\nb") data').outcome = (.ok "a字1\nb", []) := by
  intro letter digit data data' o o'
  have ho : (Options.ofValue data).outcome = (.ok o, []) := by rfl
  have ho' : (Options.ofValue data').outcome = (.ok o', []) := by rfl
  let letters : CharTest := .set true [.span 97 122]
  let digits : CharTest := .set true [.span 48 57]
  have hletters : IsClass "[a-z]".toList letters := isClass_letters
  have hdigits : IsClass "[0-9]".toList digits := isClass_digits
  have hletter : letter.HasClassSides :=
    ⟨classSide_of_isClass hletters (by decide), classSide_none⟩
  have hdigit : digit.HasClassSides :=
    ⟨classSide_none, classSide_of_isClass hdigits (by decide)⟩
  have hrules : ∀ r ∈ o.rules, r.HasClassSides := by
    simpa [o, Options.rules] using ⟨hletter, hdigit⟩
  have hsubset : ∀ r ∈ o.rules, r ∈ o'.rules := by simp [o, o', Options.rules]
  have hback : ∀ r ∈ o'.rules, r ∈ o.rules := by simp [o, o', Options.rules]
  have hrules' : ∀ r ∈ o'.rules, r.HasClassSides := fun r hr => hrules r (hback r hr)
  let unit (c : Char) : Bool := (Units.node {} false).matchesAll [c]
  have hjoined : joinedBySome o.extensions o.rules = fun before next =>
      (before.head?.any (fun c => unit c || acceptsChar false letters c) && next.any unit) ||
        ((before.head?.any unit && next.any fun c => unit c || acceptsChar false digits c) ||
          false) := by
    funext before next
    change (letter.joins {} before next || (digit.joins {} before next || false)) = _
    rw [Rule.joins, Rule.joins, admitsChar_none, admitsChar_class (by decide) hletters,
      admitsChar_class (by decide) hdigits]
  have hout : deleteWhere (fun before next =>
      (before.head?.any (fun c => unit c || acceptsChar false letters c) && next.any unit) ||
        ((before.head?.any unit && next.any fun c => unit c || acceptsChar false digits c) ||
          false)) [] ['a', '\n', '字', '\r', '\n', '1', '\n', 'b'] = ['a', '字', '1', '\n', 'b'] := by
    decide +kernel
  obtain ⟨houtcome, hothers⟩ :=
    removeBreaks_joinedBySome ho rfl hrules "a\n字\r\n1\nb"
  rw [hjoined, show "a\n字\r\n1\nb".toList = _ from String.toList_ofList, hout] at houtcome
  obtain ⟨out, out', hgiven, hgiven', -, hsame⟩ := hothers data' o' [] ho' rfl hrules' hsubset
  rw [houtcome] at hgiven
  obtain rfl := Except.ok.inj (Prod.mk.inj hgiven).1
  rw [hsame hback] at hgiven'
  exact ⟨⟨ho, rfl, hrules⟩, ⟨ho', rfl, hrules', hsubset, hback⟩, houtcome, hgiven'⟩

end LineJoin
