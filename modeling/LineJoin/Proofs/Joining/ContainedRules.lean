import LineJoin.Proofs.Joining.Containment

/-!
# Rules with a contained fragment

The groups of a contained fragment are counted on from the first one, so none of them is the first
group, which stays that of the side before the break. Rules with at most one fragment, and that one
contained, always make patterns, and these remove line breaks only.
-/

namespace LineJoin

open Pattern Reader

namespace Pattern.Node

theorem setsGroup_countOn (k g : Nat) (n : Node Nat) :
    (n.countOn k).setsGroup (g + k) = n.setsGroup g := by
  induction n with
  | group n body ih =>
    have hnumber : (n + k == g + k) = (n == g) := by
      rw [Bool.eq_iff_iff, beq_iff_eq, beq_iff_eq, Nat.add_right_cancel_iff]
    rw [countOn, setsGroup, setsGroup, ih, hnumber]
  | seq a b iha ihb | alt a b iha ihb => rw [countOn, setsGroup, setsGroup, iha, ihb]
  | ifGroup n yes no ihyes ihno => rw [countOn, setsGroup, setsGroup, ihyes, ihno]
  | atomic body ih | look _ _ body ih | repeated _ _ _ body ih => exact ih
  | _ => rfl

theorem Counted.setsGroup_zero {n : Node Nat} (h : n.Counted) : n.setsGroup 0 = false := by
  induction n with
  | group n body ih => rw [setsGroup, ih h.2, beq_eq_false_iff_ne.mpr h.1, Bool.or_false]
  | seq a b iha ihb | alt a b iha ihb => rw [setsGroup, iha h.1, ihb h.2, Bool.or_false]
  | ifGroup n yes no ihyes ihno => rw [setsGroup, ihyes h.1, ihno h.2, Bool.or_false]
  | atomic body ih | look _ _ body ih | repeated _ _ _ body ih => exact ih h
  | _ => rfl

/-- Once its groups are counted on, a node no longer sets the first one. -/
theorem Counted.setsGroup_countOn {n : Node Nat} (h : n.Counted) :
    (n.countOn 1).setsGroup 1 = false :=
  (Node.setsGroup_countOn 1 0 n).trans h.setsGroup_zero

theorem setsStart_countOn (k : Nat) (n : Node Nat) : (n.countOn k).setsStart = n.setsStart := by
  induction n with
  | seq a b iha ihb | alt a b iha ihb => rw [countOn, setsStart, setsStart, iha, ihb]
  | ifGroup n yes no ihyes ihno => rw [countOn, setsStart, setsStart, ihyes, ihno]
  | group _ body ih | atomic body ih | look _ _ body ih | repeated _ _ _ body ih => exact ih
  | _ => rfl

theorem Plain.setsGroup {n : Node Nat} (h : n.Plain) (g : Nat) : n.setsGroup g = false := by
  induction n with
  | seq a b iha ihb | alt a b iha ihb => rw [Node.setsGroup, iha h.1, ihb h.2, Bool.or_false]
  | repeated greedy least most body ih => exact ih h
  | empty | never | char => rfl
  | _ => cases h

/-- What no branch has branches do not have, if alternatives have what one of them has. -/
theorem branches_eq_false_iff {f : Node Nat → Bool} (hempty : f .empty = false)
    (halt : ∀ a b, f (.alt a b) = (f a || f b)) {ns : List (Node Nat)} :
    f (branches ns) = false ↔ ∀ n ∈ ns, f n = false := by
  induction ns with
  | nil => simp [branches, hempty]
  | cons n ns ih =>
    by_cases hns : ns = []
    · simp [hns, branches]
    · rw [branches_cons n hns, List.forall_mem_cons, ← ih, halt, Bool.or_eq_false_iff]

end Pattern.Node

namespace Units

/-- What neither a unit nor the fragment has a side does not have. -/
theorem sideNode_eq_false {f : Node Nat → Bool} (hempty : f .empty = false)
    (halt : ∀ a b, f (.alt a b) = (f a || f b)) {x : Extensions} {i : Bool} {n : Node Nat}
    (hunit : f (node x i) = false) (hn : f n = false) : f (sideNode x i n) = false := by
  have hunit := (Node.branches_eq_false_iff hempty halt).mp hunit
  refine (Node.branches_eq_false_iff hempty halt).mpr (List.forall_mem_append.mpr ⟨hunit, ?_⟩)
  exact List.forall_mem_singleton.mpr hn

end Units

/-- A pattern of its own that refers to no group by number, can be read between parentheses, and does
not say where the text that is replaced begins. -/
structure Containable (fragment : String) : Prop where
  ne_empty : fragment ≠ ""
  alone : ∃ q, Pattern.read fragment.toList = .ok q ∧ q.root.setsStart = false
  numberless : refersByNumber fragment.toList = false
  bracketed : Bracketed fragment.toList

/-- There is at most one fragment, and it is containable. -/
inductive Rule.Contained : Rule → Prop where
  | units : Contained ⟨none, none⟩
  | before {fragment : String} (h : Containable fragment) : Contained ⟨some fragment, none⟩
  | after {fragment : String} (h : Containable fragment) : Contained ⟨none, some fragment⟩

theorem Rule.Contained.compile {r : Rule} (h : r.Contained) (x : Extensions) :
    ∃ p, r.compile (Units.unitText x) = .ok p ∧ p.root.KeepsCharacters := by
  have hgroup (i : Bool) := (Units.plain_node x i).setsGroup 1
  have hstart (i : Bool) := (Units.plain_node x i).setsStart
  have hside {q : Pattern} (hq : q.root.setsStart = false) (i : Bool) :
      (Units.sideNode x i (q.root.countOn 1)).setsStart = false :=
    Units.sideNode_eq_false rfl (fun _ _ => rfl) (hstart i)
      ((Node.setsStart_countOn 1 q.root).trans hq)
  cases h with
  | units =>
    obtain ⟨p, hp, hroot⟩ := compile_units x
    exact ⟨p, hp, hroot ▸ ruleNode_keepsCharacters false (hstart _) (hstart _) (hgroup _)⟩
  | before h =>
    obtain ⟨q, halone, hq⟩ := h.alone
    obtain ⟨p, i, hp, hroot⟩ :=
      (compile_before (x := x) halone h.numberless h.ne_empty).1 h.bracketed
    exact ⟨p, hp, hroot ▸ ruleNode_keepsCharacters i (hside hq i) (hstart i) (hgroup i)⟩
  | after h =>
    obtain ⟨q, halone, hq⟩ := h.alone
    obtain ⟨p, i, hp, hroot⟩ :=
      (compile_after (x := x) halone h.numberless h.ne_empty).1 h.bracketed
    have hcounted := (counted_alone halone h.numberless).setsGroup_countOn
    have hafter := Units.sideNode_eq_false rfl (fun _ _ => rfl) (hgroup i) hcounted
    exact ⟨p, hp, hroot ▸ ruleNode_keepsCharacters i (hstart i) (hside hq i) hafter⟩

/-- Options without further rules have one rule, which has no fragments. -/
theorem Options.contained {o : Options} (h : ∀ r ∈ o.additionalRules, r.Contained) :
    ∀ r ∈ o.rules, r.Contained := by
  rw [Options.rules]
  split
  · exact List.forall_mem_singleton.mpr .units
  · exact h

theorem compileRules_contained {o : Options} (h : ∀ r ∈ o.additionalRules, r.Contained) :
    ∃ ps, compileRules o = .ok ps ∧ ∀ p ∈ ps, p.root.KeepsCharacters := by
  have hrules := Options.contained h
  rw [compileRules]
  generalize o.rules = rules at hrules
  induction rules with
  | nil => exact ⟨[], rfl, List.forall_mem_nil _⟩
  | cons r rules ih =>
    obtain ⟨hr, hrules⟩ := List.forall_mem_cons.mp hrules
    obtain ⟨p, hp, hkeeps⟩ := hr.compile o.extensions
    obtain ⟨ps, hps, hall⟩ := ih hrules
    refine ⟨p :: ps, ?_, List.forall_mem_cons.mpr ⟨hkeeps, hall⟩⟩
    rw [List.mapM_cons, hp, hps]
    rfl

/-- As long as the patterns keep characters, only line breaks are removed, whatever the rules are. -/
theorem removeBreaks_keepsCharacters {data : Value} {o : Options} {records : List Record}
    {ps : List Pattern} (ho : (Options.ofValue data).outcome = (.ok o, records))
    (hps : compileRules o = .ok ps) (hkeeps : ∀ p ∈ ps, p.root.KeepsCharacters) (text : String) :
    ∃ out, (removeBreaks (.str text) data).outcome = (.ok out, records) ∧
      withoutBreaks out.toList = withoutBreaks text.toList := by
  refine ⟨_, removeBreaks_outcome ho hps, ?_⟩
  rw [rewriteString, String.toList_ofList]
  exact withoutBreaks_rewriteText hkeeps text.toList

/-- A rule with a fragment on each side in turn. -/
theorem removeBreaks_keepsCharacters_contained :
    let before : Rule := ⟨some "(a)|b+", none⟩
    let after : Rule := ⟨none, some "(?<=\\n)#"⟩
    let data : Value := .dict [(.str "additionalRegexpPairs", .list [.rule before, .rule after])]
    let o : Options := { additionalRules := [before, after] }
    (Options.ofValue data).outcome = (.ok o, []) ∧
      ∃ ps, compileRules o = .ok ps ∧ (∀ p ∈ ps, p.root.KeepsCharacters) ∧
        ∃ out, (removeBreaks (.str "a\n字\n#\r\nbb\n字a\r\nb") data).outcome = (.ok out, []) ∧
          withoutBreaks out.toList = withoutBreaks "a\n字\n#\r\nbb\n字a\r\nb".toList := by
  intro before after data o
  have ho : (Options.ofValue data).outcome = (.ok o, []) := by rfl
  let b : Node Nat := .alt (.group 1 (.char false (.code 97)))
    (.repeated true 1 none (.char false (.code 98)))
  have hbefore : Containable "(a)|b+" :=
    ⟨by decide, ⟨⟨b, 1, ['(', 'a', ')', '|', 'b', '+']⟩, by cbv, rfl⟩, by cbv,
      ⟨b, 1, inParentheses ['(', 'a', ')', '|', 'b', '+']⟩, by cbv⟩
  let a : Node Nat := .seq (.look true true (.char false (.code 10))) (.char false (.code 35))
  have hafter : Containable "(?<=\\n)#" :=
    ⟨by decide, ⟨⟨a, 0, ['(', '?', '<', '=', '\\', 'n', ')', '#']⟩, by cbv, rfl⟩, by cbv,
      ⟨a, 0, inParentheses ['(', '?', '<', '=', '\\', 'n', ')', '#']⟩, by cbv⟩
  have hrules : ∀ r ∈ o.additionalRules, r.Contained :=
    List.forall_mem_cons.mpr ⟨.before hbefore, List.forall_mem_singleton.mpr (.after hafter)⟩
  obtain ⟨ps, hps, hkeeps⟩ := compileRules_contained hrules
  exact ⟨ho, ps, hps, hkeeps, removeBreaks_keepsCharacters ho hps hkeeps _⟩

end LineJoin
