import Mathlib
import LineJoin.Proofs.Joining.FragmentTree
import LineJoin.Proofs.Joining.UnitCase
import LineJoin.Proofs.Joining.Units

/-!
# Fragments within their side

A rule with a contained fragment makes a pattern. The side that carries the fragment is matched like
a unit and then like the fragment alone, with its groups counted on from the first one, and the other
side like a unit.
-/

namespace LineJoin

open Pattern Reader ReadState

namespace Pattern

namespace Node

variable {calls calls' : CallWays}

/-- The places up to which a node can be matched, the preferred one first. -/
def ends (calls : CallWays) (n : Node Nat) (s : State) : List Cursor :=
  (n.ways calls false s).map (·.cursor)

end Node

/-- The places up to which a pattern matches from a place on, in a search that began at the origin. -/
def ends (p : Pattern) (origin : Nat) (c : Cursor) : List Cursor :=
  p.root.ends (p.root.callWays Node.callDepth) (.begin origin c)

theorem map_cursor_eq {R : State → State → Prop} (hR : ∀ s s', R s s' → s'.cursor = s.cursor)
    {ways ways' : List State} (h : List.Forall₂ R ways ways') :
    ways'.map (·.cursor) = ways.map (·.cursor) := by
  induction h with
  | nil => rfl
  | cons h _ ih => rw [List.map_cons, List.map_cons, ih, hR _ _ h]

namespace Node

variable {calls calls' : CallWays}

theorem ends_countOn {n : Node Nat} {k : Nat} {s s' : State} (hcalls : calls.CountedOn k calls')
    (hn : n.Counted) (h : State.CountedOn k s s') : (n.countOn k).ends calls' s' = n.ends calls s :=
  map_cursor_eq (fun _ _ h => h.cursor) (ways_countOn hcalls hn false h)

/-- Where a plain node ends does not depend on calls or on what is known besides the place. -/
theorem ends_plain {n : Node Nat} (hn : n.Plain) {s s' : State} (h : s'.cursor = s.cursor) :
    n.ends calls' s' = n.ends calls s := by
  refine map_cursor_eq (R := fun s s' => s'.cursor = s.cursor) (fun _ _ h => h) ?_
  induction n generalizing s s' with
  | empty => exact .cons h .nil
  | never => exact .nil
  | char ignoreCase test =>
    simp only [ways, State.take?, h, Bool.false_eq_true, if_false]
    cases s.cursor.forward? with
    | none => exact .nil
    | some taken =>
      dsimp only [Option.map_some]
      split
      · exact .cons rfl .nil
      · exact .nil
  | seq a b iha ihb => exact List.rel_flatMap (iha hn.1 h) fun e e' he => ihb hn.2 he
  | alt a b iha ihb => exact List.rel_append (iha hn.1 h) (ihb hn.2 h)
  | repeated greedy least most body ih =>
    rw [ways, ways, State.room, State.room, h]
    exact forall₂_iterateWays (fun h => h) (fun h => ih hn h) greedy _ least most h
  | _ => cases hn

theorem ways_branches {ns : List (Node Nat)} (hns : ns ≠ []) (backward : Bool) (s : State) :
    (branches ns).ways calls backward s = ns.flatMap fun n => n.ways calls backward s := by
  induction ns with
  | nil => exact absurd rfl hns
  | cons n ns ih =>
    cases ns with
    | nil => simp [branches]
    | cons m ms =>
      rw [List.flatMap_cons, ← ih (List.cons_ne_nil _ _)]
      rfl

theorem Plain.groupBody? {n : Node Nat} (h : n.Plain) (g : Nat) : n.groupBody? g = none := by
  induction n with
  | seq a b iha ihb | alt a b iha ihb => rw [Node.groupBody?, iha h.1, ihb h.2, Option.or_none]
  | repeated greedy least most body ih => exact ih h
  | empty | never | char => rfl
  | _ => cases h

/-- The groups of branches are those of the last one, if there are none in the others. -/
theorem groupBody?_branches_concat {ns : List (Node Nat)} (hns : ∀ n ∈ ns, n.Plain) (m : Node Nat)
    (g : Nat) : (branches (ns ++ [m])).groupBody? g = m.groupBody? g := by
  induction ns with
  | nil => rfl
  | cons n ns ih =>
    obtain ⟨hn, hns⟩ := List.forall_mem_cons.mp hns
    rw [List.cons_append, branches_cons n (by simp), groupBody?, hn.groupBody?, ih hns,
      Option.none_or]

end Node

end Pattern

namespace Units

variable {calls calls' : CallWays}

theorem ways_sideNode (x : Extensions) (i : Bool) (n : Node Nat) (backward : Bool) (s : State) :
    (sideNode x i n).ways calls backward s =
      (node x i).ways calls backward s ++ n.ways calls backward s := by
  have hne : (branches x).map (· i) ≠ ([] : List (Node Nat)) := by
    rw [branches, List.map_cons]
    exact List.cons_ne_nil _ _
  rw [sideNode, node, Node.ways_branches (by simp), Node.ways_branches hne, List.flatMap_append,
    List.flatMap_singleton]

theorem ends_sideNode (x : Extensions) (i : Bool) (n : Node Nat) (s : State) :
    (sideNode x i n).ends calls s = (node x i).ends calls s ++ n.ends calls s := by
  rw [Node.ends, ways_sideNode, List.map_append]
  rfl

/-- A unit ends at the same places whatever is known besides the place, with and without regard to
case. -/
theorem ends_node (x : Extensions) (i : Bool) {s s' : State} (h : s'.cursor = s.cursor) :
    (node x i).ends calls' s' = (node x false).ends calls s := by
  rw [Node.ends, caseFree_node x calls' i]
  exact Node.ends_plain (plain_node x false) h

/-- The groups of a side are those of its fragment. -/
theorem groupBody?_sideNode (x : Extensions) (i : Bool) (n : Node Nat) (g : Nat) :
    (sideNode x i n).groupBody? g = n.groupBody? g :=
  Node.groupBody?_branches_concat (Node.plain_branches_iff.mp (plain_node x i)) n g

theorem resolve_alt {ε ρ σ : Type} {f : ρ → Except ε σ} {a b : Node ρ} {a' b' : Node σ}
    (ha : a.resolve f = .ok a') (hb : b.resolve f = .ok b') :
    (Node.alt a b).resolve f = .ok (.alt a' b') := by
  rw [Node.resolve, ha, hb]
  rfl

theorem resolve_sideNode {ε ρ σ : Type} {f : ρ → Except ε σ} (x : Extensions) (i : Bool)
    {n : Node ρ} {n' : Node σ} (h : n.resolve f = .ok n') :
    (sideNode x i n).resolve f = .ok (sideNode x i n') := by
  rw [sideNode, sideNode, branches, branches]
  cases x.emoji with
  | false => exact resolve_alt rfl h
  | true =>
    exact resolve_alt rfl (resolve_alt rfl (resolve_alt rfl (resolve_alt rfl (resolve_alt rfl
      (resolve_alt rfl (resolve_alt rfl (resolve_alt rfl (resolve_alt rfl h))))))))

theorem plain_sideNode (x : Extensions) {n : Node Nat} (h : n.Plain) :
    (sideNode x false n).Plain := by
  have hunit := Node.plain_branches_iff.mp (plain_node x false)
  refine Node.plain_branches_iff.mpr (List.forall_mem_append.mpr ⟨hunit, ?_⟩)
  exact List.forall_mem_singleton.mpr h

theorem takesOnly_sideNode (x : Extensions) {n : Node Nat}
    (h : n.TakesOnly fun c => isBreakChar c = false) :
    (sideNode x false n).TakesOnly fun c => isBreakChar c = false := by
  have hunit := Node.takesOnly_branches_iff.mp (takesOnly_node x)
  refine Node.takesOnly_branches_iff.mpr (List.forall_mem_append.mpr ⟨hunit, ?_⟩)
  exact List.forall_mem_singleton.mpr h

/-- The texts of a side are those of a unit and those of its fragment. -/
theorem matches_sideNode_iff (x : Extensions) {n : Node Nat} {text : List Char} :
    (sideNode x false n).Matches text ↔ isUnit x text = true ∨ n.Matches text := by
  rw [isUnit_iff, sideNode, node, Node.matches_branches_iff (by simp),
    Node.matches_branches_iff (by simp [branches])]
  simp only [List.mem_append, List.mem_singleton, or_and_right, exists_or, exists_eq_left]

end Units

theorem fresh_beforeStart (flags : Flags) (x y : List Char) : (beforeStart flags x y).Fresh where
  level := rfl
  globalFlags := rfl
  names := rfl
  outer := fun _ hn => Nat.le_of_eq (List.mem_singleton.mp hn)
  opened := fun _ hn => Nat.le_of_eq (List.mem_singleton.mp hn)

theorem lineFeed_afterSide (x : Extensions) :
    '\n' ∉ Rule.breakText.toList ++ '(' :: '?' :: '=' :: (Units.plainText x ++ [')']) := by
  have hunit := Units.lineFeed_unitText x
  have hbreak : '\n' ∉ Rule.breakText.toList := by decide
  simp [Units.plainText, hunit, hbreak]

section Sides

variable [CharacterNames] [KnowsUnits] {x : Extensions} {fragment : String} {q : Pattern}
  (halone : Pattern.read fragment.toList = .ok q)
  (hnumbers : refersByNumber fragment.toList = false) (hne : fragment ≠ "")

/-- The fragment read alone, up to its end. -/
def AloneReads (fragment : String) (q : Pattern) (flags : Flags) (n : Node Ref) (t : ReadState) :
    Prop :=
  (readAlternatives (wholeFuel fragment.toList)).run (.start fragment.toList flags) = .ok (n, t) ∧
    n.resolve (Ref.number t) = .ok q.root ∧ (ahead t).2 = []

/-- A text around the fragment starts again whenever the fragment does, is refused if the fragment ends
in a comment, and has the given root otherwise. -/
structure ReadsAround (fragment : String) (q : Pattern) (text : List Char)
    (root : Bool → Node Nat) : Prop where
  restart : ∀ flags more,
    readWhole.run (.start fragment.toList flags) = .error (.restart more) →
    readWhole.run (.start text flags) = .error (.restart more)
  commented : ∀ flags n t, AloneReads fragment q flags n t → t.Commented →
    ∃ e, readWhole.run (.start text flags) = .error (.fault e)
  closed : ∀ flags n t, AloneReads fragment q flags n t → ¬t.Commented →
    ∃ m v, readWhole.run (.start text flags) = .ok (m, v) ∧
      m.resolve (Ref.number v) = .ok (root flags.ignoreCase)

include halone hnumbers

omit [KnowsUnits] in
/-- The text makes a pattern with that root if the fragment makes one in parentheses. -/
theorem ReadsAround.read {text : List Char} {root : Bool → Node Nat}
    (h : ReadsAround fragment q text root) :
    (Bracketed fragment.toList → ∃ p i, Pattern.read text = .ok p ∧ p.root = root i) ∧
      (¬Bracketed fragment.toList → ∃ e, Pattern.read text = .error e) := by
  obtain ⟨n, t, hread⟩ := reading_alone halone
  rw [bracketed_iff halone hnumbers hread.1 hread.2.1 hread.2.2]
  constructor
  · intro hc
    obtain ⟨m, v, hwhole, hroot⟩ := h.closed _ n t hread hc
    exact ⟨_, _, read_of_settled halone h.restart hwhole hroot, rfl⟩
  · intro hc
    obtain ⟨e, hwhole⟩ := h.commented _ n t hread (not_not.mp hc)
    exact ⟨e, read_error_of_settled halone h.restart hwhole⟩

omit halone

theorem readsAround_before :
    ReadsAround fragment q
      (Rule.patternChars (Units.sideText x fragment.toList) (Units.plainText x))
      fun i => Rule.node i (Units.sideNode x i (q.root.countOn 1)) (Units.node x i) := by
  let side := Units.sideText x fragment.toList
  let y := Units.plainText x
  let rest := Rule.breakText.toList ++ '(' :: '?' :: '=' :: (y ++ [')'])
  have hfuel : 6 * side.length ≤ sideFuel side y + 2 := by
    have := (le_sideFuel side y).1
    omega
  have hunit : 2 * y.length + 1 ≤ sideFuel side y := by
    have := (le_sideFuel side y).2
    omega
  have hside (flags : Flags) := run_side (x := x)
    (fresh_beforeStart flags side y) (lineFeed_afterSide x) hnumbers rfl hfuel
  constructor
  case restart =>
    intro flags more hrun
    exact run_readWhole_before_error rfl
      ((hside flags).1 more (readAlternatives_of_restart hrun))
  case commented =>
    rintro flags n t ⟨hread, -, hend⟩ hc
    obtain ⟨e, he⟩ := ((hside flags).2 n t hread hend).1 hc
    exact ⟨e, run_readWhole_before_error rfl he⟩
  case closed =>
    rintro flags n t ⟨hread, hroot, hend⟩ hc
    obtain ⟨hbefore, hnamed, ht⟩ := ((hside flags).2 n t hread hend).2 hc
    let s := beforeStart flags side y
    have hafter := readsAlternatives_unit x (sideFuel side y)
      (afterStart flags y (afterSide x fragment.toList rest s t)) [] hunit rfl rfl
    obtain ⟨v, hwhole, hcount, hnames, hopened⟩ :=
      run_readWhole_rule rfl hbefore rfl hafter rfl
    have hrenames : (fragmentPlace x fragment.toList rest s).Renames t v :=
      ⟨ht.sound.named, (fresh_beforeStart flags side y).opened, hcount, hnames, hopened⟩
    have hpasted := (resolve_pasted hrenames hnamed hroot).1
    exact ⟨_, v, hwhole, resolve_ruleNode flags.ignoreCase
      (Units.resolve_sideNode x flags.ignoreCase hpasted)
      (resolve_unitNode (Ref.number v) x flags.ignoreCase)⟩

theorem readsAround_after :
    ReadsAround fragment q
      (Rule.patternChars (Units.plainText x) (Units.sideText x fragment.toList))
      fun i => Rule.node i (Units.node x i) (Units.sideNode x i (q.root.countOn 1)) := by
  let side := Units.sideText x fragment.toList
  let y := Units.plainText x
  let rest := Rule.breakText.toList ++ '(' :: '?' :: '=' :: (side ++ [')'])
  let t' (flags : Flags) := (beforeStart flags y side).past y.length (')' :: rest)
  have hunit : 2 * y.length + 1 ≤ sideFuel y side + 2 := by
    have := (le_sideFuel y side).1
    omega
  have hfuel : 6 * side.length ≤ sideFuel y side := by
    have := (le_sideFuel y side).2
    omega
  have hbefore (flags : Flags) := readsAlternatives_unit x (sideFuel y side + 2)
    (beforeStart flags y side) rest hunit rfl rfl
  have hopened (flags : Flags) := (fresh_beforeStart flags y side).opened
  have hside (flags : Flags) := run_side (x := x)
    (s := afterStart flags side (t' flags)) ⟨rfl, rfl, rfl, nofun, hopened flags⟩
    List.not_mem_nil hnumbers rfl hfuel
  constructor
  case restart =>
    intro flags more hrun
    exact run_readWhole_after_error rfl (hbefore flags) rfl
      ((hside flags).1 more (readAlternatives_of_restart hrun))
  case commented =>
    rintro flags n t ⟨hread, -, hend⟩ hc
    obtain ⟨e, he⟩ := ((hside flags).2 n t hread hend).1 hc
    exact ⟨e, run_readWhole_after_error rfl (hbefore flags) rfl he⟩
  case closed =>
    rintro flags n t ⟨hread, hroot, hend⟩ hc
    obtain ⟨hafter, hnamed, ht⟩ := ((hside flags).2 n t hread hend).2 hc
    obtain ⟨v, hwhole, hcount, hnames, hopened'⟩ :=
      run_readWhole_rule rfl (hbefore flags) rfl hafter rfl
    have hrenames : (fragmentPlace x fragment.toList [] (afterStart flags side (t' flags))).Renames
        t v :=
      ⟨ht.sound.named, hopened flags, hcount, hnames, hopened'⟩
    have hpasted := (resolve_pasted hrenames hnamed hroot).1
    exact ⟨_, v, hwhole, resolve_ruleNode flags.ignoreCase
      (resolve_unitNode (Ref.number v) x flags.ignoreCase)
      (Units.resolve_sideNode x flags.ignoreCase hpasted)⟩

include halone hne

/-- A rule with a fragment before the break makes a pattern if the fragment makes one in
parentheses. -/
theorem compile_before :
    (Bracketed fragment.toList →
      ∃ p i, Rule.compile ⟨some fragment, none⟩ (Units.unitText x) = .ok p ∧
        p.root = Rule.node i (Units.sideNode x i (q.root.countOn 1)) (Units.node x i)) ∧
      (¬Bracketed fragment.toList →
        ∃ e, Rule.compile ⟨some fragment, none⟩ (Units.unitText x) = .error e) := by
  have hside := Units.sideText_toList x hne
  have hplain := Units.plainText_toList x
  obtain ⟨hbracketed, hrefused⟩ := (readsAround_before (x := x) hnumbers).read halone hnumbers
  constructor
  · intro hb
    obtain ⟨p, i, hp, hroot⟩ := hbracketed hb
    exact ⟨p, i, Rule.compile_of_read hside hplain hp, hroot⟩
  · intro hb
    obtain ⟨e, he⟩ := hrefused hb
    exact ⟨_, Rule.compile_of_fault hside hplain he⟩

/-- A rule with a fragment after the break makes a pattern if the fragment makes one in
parentheses. -/
theorem compile_after :
    (Bracketed fragment.toList →
      ∃ p i, Rule.compile ⟨none, some fragment⟩ (Units.unitText x) = .ok p ∧
        p.root = Rule.node i (Units.node x i) (Units.sideNode x i (q.root.countOn 1))) ∧
      (¬Bracketed fragment.toList →
        ∃ e, Rule.compile ⟨none, some fragment⟩ (Units.unitText x) = .error e) := by
  have hplain := Units.plainText_toList x
  have hside := Units.sideText_toList x hne
  obtain ⟨hbracketed, hrefused⟩ := (readsAround_after (x := x) hnumbers).read halone hnumbers
  constructor
  · intro hb
    obtain ⟨p, i, hp, hroot⟩ := hbracketed hb
    exact ⟨p, i, Rule.compile_of_read hplain hside hp, hroot⟩
  · intro hb
    obtain ⟨e, he⟩ := hrefused hb
    exact ⟨_, Rule.compile_of_fault hplain hside he⟩

end Sides

/-- The rule makes a pattern whose side before the break ends at the given places, in a search that
began at a given place, and whose side after the break does, from wherever the look-ahead begins. -/
def Rule.Admits [CharacterNames] (r : Rule) (x : Extensions)
    (before after : Nat → Cursor → List Cursor) : Prop :=
  ∃ p i b a, r.compile (Units.unitText x) = .ok p ∧ p.root = Rule.node i b a ∧
    let calls := p.root.callWays Node.callDepth
    (∀ origin c, b.ends calls (.begin origin c) = before origin c) ∧
    ∀ origin c, ∀ e ∈ b.ways calls false (.begin origin c),
      ∀ u d, a.ends calls ⟨d, e.memory.capture 1 u⟩ = after origin d

theorem countedOn_begin (origin : Nat) (c : Cursor) :
    State.CountedOn 1 (.begin origin c) (.begin origin c) := ⟨rfl, rfl, fun _ => rfl⟩

/-- What the first group has taken is nothing to groups that are counted on from it. -/
theorem countedOn_firstGroup (origin : Nat) (c : Cursor) (u : List Char) :
    State.CountedOn 1 (.begin origin c) ⟨c, (State.begin origin c).memory.capture 1 u⟩ where
  cursor := rfl
  origin := rfl
  captured n := by
    have hne : countedOn 1 n ≠ 1 := by
      rw [countedOn]
      split <;> omega
    exact (State.captured?_capture (.begin origin c) 1 _ u).trans (if_neg hne)

/-- A group of the fragment is called in the rule as it is alone. -/
theorem callee_ruleNode {b a root : Node Nat} {n : Nat} (hn : n ≠ 0) (i : Bool)
    (h : (b.groupBody? (n + 1)).or (a.groupBody? (n + 1)) = (root.countOn 1).groupBody? (n + 1)) :
    (Rule.node i b a).callee (n + 1) = (root.callee n).countOn 1 := by
  have hgroup : (Rule.node i b a).groupBody? (n + 1) = (root.countOn 1).groupBody? (n + 1) := by
    simp only [Rule.node, Rule.breakNode, Node.groupBody?, Option.none_or]
    rw [if_neg (by omega), h]
  rw [Node.callee, if_neg (Nat.succ_ne_zero n), hgroup, Node.groupBody?_countOn, Node.callee,
    if_neg hn]
  cases root.groupBody? n <;> rfl

/-- A unit, and after it the fragment as it is alone, is admitted on the side that carries the
fragment, and a unit on the other side. -/
theorem admits_fragment [CharacterNames] [KnowsUnits] (x : Extensions) {fragment : String}
    {q : Pattern} (halone : Pattern.read fragment.toList = .ok q)
    (hnumbers : refersByNumber fragment.toList = false) (hne : fragment ≠ "") :
    ∃ unit, Units.recogniser x = .ok unit ∧
      (Bracketed fragment.toList →
        Rule.Admits ⟨some fragment, none⟩ x (fun o c => unit.ends o c ++ q.ends o c) unit.ends ∧
        Rule.Admits ⟨none, some fragment⟩ x unit.ends fun o c => unit.ends o c ++ q.ends o c) ∧
      (¬Bracketed fragment.toList →
        (∃ e, Rule.compile ⟨some fragment, none⟩ (Units.unitText x) = .error e) ∧
        ∃ e, Rule.compile ⟨none, some fragment⟩ (Units.unitText x) = .error e) := by
  obtain ⟨unit, hunit, hroot⟩ := recogniser_root x
  have hcounted := counted_alone halone hnumbers
  obtain ⟨hbefore, hbeforeError⟩ := compile_before (x := x) halone hnumbers hne
  obtain ⟨hafter, hafterError⟩ := compile_after (x := x) halone hnumbers hne
  have hunitEnds (calls : CallWays) (i : Bool) (origin : Nat) {s : State} {c : Cursor}
      (hs : s.cursor = c) : (Units.node x i).ends calls s = unit.ends origin c := by
    rw [Pattern.ends, hroot]
    exact Units.ends_node x i hs
  refine ⟨unit, hunit, fun hbracketed => ⟨?_, ?_⟩, fun h => ⟨hbeforeError h, hafterError h⟩⟩
  · obtain ⟨p, i, hcompile, hp⟩ := hbefore hbracketed
    have hcalls : (q.root.callWays Node.callDepth).CountedOn 1
        (p.root.callWays Node.callDepth) := by
      refine Node.callWays_countedOn hcounted (fun n hn => ?_) Node.callDepth
      rw [hp]
      refine callee_ruleNode hn i ?_
      rw [Units.groupBody?_sideNode, (Units.plain_node x i).groupBody?, Option.or_none]
    refine ⟨p, i, _, _, hcompile, hp, fun origin c => ?_, fun origin c e _ u d => ?_⟩
    · rw [Units.ends_sideNode, hunitEnds _ i origin rfl,
        Node.ends_countOn hcalls hcounted (countedOn_begin origin c)]
      rfl
    · exact hunitEnds _ i origin rfl
  · obtain ⟨p, i, hcompile, hp⟩ := hafter hbracketed
    have hcalls : (q.root.callWays Node.callDepth).CountedOn 1
        (p.root.callWays Node.callDepth) := by
      refine Node.callWays_countedOn hcounted (fun n hn => ?_) Node.callDepth
      rw [hp]
      refine callee_ruleNode hn i ?_
      rw [Units.groupBody?_sideNode, (Units.plain_node x i).groupBody?, Option.none_or]
    refine ⟨p, i, _, _, hcompile, hp, fun origin c => ?_, fun origin c e he u d => ?_⟩
    · exact hunitEnds _ i origin rfl
    · -- the unit before the break has no groups
      obtain ⟨t, -, ht⟩ := (Node.mem_ways_plain (Units.plain_node x i)).mp he
      have hmemory : e.memory = (State.begin origin d).memory := ht.memory
      rw [hmemory, Units.ends_sideNode, hunitEnds _ i origin (c := d) rfl,
        Node.ends_countOn hcalls hcounted (countedOn_firstGroup origin d u)]
      rfl

/-- A fragment that sets a flag for the whole pattern, counts a group and has two alternatives. -/
theorem admits_fragment_ignoreCase :
    let q : Pattern := ⟨.alt (.group 1 (.char true (.code 97))) (.char true (.code 98)), 1,
      ['(', '?', 'i', ')', '(', 'a', ')', '|', 'b']⟩
    Pattern.read "(?i)(a)|b".toList = .ok q ∧ refersByNumber "(?i)(a)|b".toList = false ∧
      "(?i)(a)|b" ≠ "" ∧ Bracketed "(?i)(a)|b".toList ∧
      ∃ unit, Units.recogniser {} = .ok unit ∧
        Rule.Admits ⟨some "(?i)(a)|b", none⟩ {} (fun o c => unit.ends o c ++ q.ends o c)
          unit.ends ∧
        Rule.Admits ⟨none, some "(?i)(a)|b"⟩ {} unit.ends fun o c =>
          unit.ends o c ++ q.ends o c := by
  intro q
  have halone : Pattern.read "(?i)(a)|b".toList = .ok q := by cbv
  have hnumbers : refersByNumber "(?i)(a)|b".toList = false := by cbv
  have hne : "(?i)(a)|b" ≠ "" := by decide
  have hbracketed : Bracketed "(?i)(a)|b".toList := ⟨⟨q.root, 1, inParentheses q.text⟩, by cbv⟩
  obtain ⟨unit, hunit, hadmits, -⟩ := admits_fragment {} halone hnumbers hne
  exact ⟨halone, hnumbers, hne, hbracketed, unit, hunit, hadmits hbracketed⟩

theorem run_openReference (k position : Nat) (rest : List Char) :
    (readSequence (k + 14) {}).run
      { rest := '(' :: '?' :: ':' :: '(' :: 'a' :: ')' :: '\\' :: '1' :: ')' :: rest, position,
        skips := false, flags := {}, globalFlags := {}, groupCount := 1, groupNames := [],
        openGroups := [1], opened := [1] } = .error (.fault ⟨.openReference, position + 8⟩) := by cbv

/-- Two patterns that make no rule: in the first the reference means the group of the side before the
break, in the second the comment takes the closing parentheses with it. -/
theorem compile_fragment_refused :
    ((∃ q, Pattern.read "(a)\\1".toList = .ok q) ∧
        ∃ e, Rule.compile ⟨some "(a)\\1", none⟩ (Units.unitText {}) = .error e) ∧
      (∃ q, Pattern.read "(?x)a#".toList = .ok q) ∧
        ∃ e, Rule.compile ⟨some "(?x)a#", none⟩ (Units.unitText {}) = .error e := by
  refine ⟨⟨⟨⟨.seq (.group 1 (.char false (.code 97))) (.backref false 1), 1,
    ['(', 'a', ')', '\\', '1']⟩, by cbv⟩, ?_⟩, ?_⟩
  · let side := Units.sideText {} "(a)\\1".toList
    let y := Units.plainText {}
    have hfuel : 6 * side.length ≤ sideFuel side y + 2 := by
      have := (le_sideFuel side y).1
      omega
    obtain ⟨k, hk, herror, -⟩ := run_side_sequence (s := beforeStart {} side y) rfl rfl hfuel
    obtain ⟨j, rfl⟩ : ∃ j, k = j + 10 := ⟨k - 10, by simp [wholeFuel] at hk; omega⟩
    have hwhole := run_readWhole_before_error (x := side) rfl
      (herror _ (run_openReference j _ _))
    exact ⟨_, Rule.compile_of_fault (Units.sideText_toList {} (by decide))
      (Units.plainText_toList {}) (read_of_fault hwhole)⟩
  · have halone : Pattern.read "(?x)a#".toList =
        .ok ⟨.char false (.code 97), 0, ['(', '?', 'x', ')', 'a', '#']⟩ := by cbv
    have hbracketed : (Pattern.read (inParentheses "(?x)a#".toList)).isOk = false := by cbv
    refine ⟨⟨_, halone⟩, (compile_before halone (by cbv) (by decide)).2 ?_⟩
    rintro ⟨p, hp⟩
    rw [hp] at hbracketed
    cases hbracketed

end LineJoin
