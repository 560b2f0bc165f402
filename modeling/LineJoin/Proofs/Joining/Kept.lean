import LineJoin.Proofs.Joining.RuleTree

/-!
# What rewriting keeps

A pattern `KeepsCharacters` if each of its alternatives takes nothing but line breaks besides what
its first group takes, and all of a match is replaced. The pattern of a rule does as long as the
fragments stay within the parentheses around them and put the start of the replaced text nowhere
else; then rewriting removes line breaks only. A fragment that closes and reopens the parentheses can
make a pattern that takes other characters, and these are lost.
-/

namespace LineJoin

open Pattern

def withoutBreaks (text : List Char) : List Char := text.filter fun c => !isBreakChar c

theorem withoutBreaks_append (a b : List Char) :
    withoutBreaks (a ++ b) = withoutBreaks a ++ withoutBreaks b := List.filter_append ..

theorem withoutBreaks_eq_nil {t : List Char} (h : ∀ c ∈ t, isBreakChar c = true) :
    withoutBreaks t = [] := by
  rw [withoutBreaks, List.filter_eq_nil_iff]
  intro c hc
  rw [h c hc]
  exact Bool.false_ne_true

namespace Pattern.Node

def isFirstGroup : Node Nat → Bool
  | group n _ => n == 1
  | _ => false

/-- The node takes line breaks only and leaves the first group as it is. -/
def TakesAside (n : Node Nat) : Prop :=
  n.TakesOnly (fun c => isBreakChar c = true) ∧ n.setsGroup 1 = false

/-- Besides what the first group takes, each alternative takes line breaks only. -/
def TakesInFirstGroup : Node Nat → Prop
  | alt a b => a.TakesInFirstGroup ∧ b.TakesInFirstGroup
  | seq a b => (a.isFirstGroup = true ∨ a.TakesAside) ∧ b.TakesAside
  | n => n.isFirstGroup = true ∨ n.TakesAside

/-- What the first group takes is all that a match takes but for line breaks, and all of a match is
replaced. -/
structure KeepsCharacters (n : Node Nat) : Prop where
  alternatives : n.TakesInFirstGroup
  whole : n.setsStart = false

variable {calls : CallWays}

/-- From one state to another the first group has taken on all but line breaks. -/
def Keeps (s e : State) : Prop :=
  ∃ t, s.cursor.Takes t e.cursor ∧
    withoutBreaks ((e.captured? 1).getD []) = withoutBreaks ((s.captured? 1).getD [] ++ t)

theorem TakesAside.keeps {n : Node Nat} (hn : n.TakesAside) {s e : State} (hs : s.cursor.Placed)
    (he : e ∈ n.ways calls false s) : Keeps s e := by
  obtain ⟨t, ht, hb⟩ := ways_takes_only hn.1 he hs
  refine ⟨t, ht, ?_⟩
  rw [ways_captured? hn.2 false s e he, withoutBreaks_append, withoutBreaks_eq_nil hb,
    List.append_nil]

theorem firstGroup_keeps {n : Node Nat} (hn : n.isFirstGroup = true) {origin : Nat} {c : Cursor}
    (hc : c.Placed) {e : State} (he : e ∈ n.ways calls false (.begin origin c)) :
    Keeps (.begin origin c) e := by
  cases n with
  | group n body =>
    obtain rfl := beq_iff_eq.mp hn
    obtain ⟨m, hm, rfl⟩ := List.mem_map.mp he
    obtain ⟨t, ht⟩ := ways_takes hm hc
    refine ⟨t, ht, ?_⟩
    rw [State.captured?_capture, if_pos rfl]
    exact congrArg withoutBreaks ht.between
  | _ => cases hn

theorem Keeps.trans {s m e : State} (h : Keeps s m) (k : Keeps m e) : Keeps s e := by
  obtain ⟨t, ht, hb⟩ := h
  obtain ⟨u, hu, hb'⟩ := k
  refine ⟨t ++ u, ht.trans hu, ?_⟩
  rw [hb', withoutBreaks_append, hb, ← withoutBreaks_append, List.append_assoc]

theorem TakesInFirstGroup.keeps {n : Node Nat} (hn : n.TakesInFirstGroup) {origin : Nat}
    {c : Cursor} (hc : c.Placed) {e : State} (he : e ∈ n.ways calls false (.begin origin c)) :
    Keeps (.begin origin c) e := by
  have hone {n : Node Nat} (hn : n.isFirstGroup = true ∨ n.TakesAside) {e : State}
      (he : e ∈ n.ways calls false (.begin origin c)) : Keeps (.begin origin c) e :=
    hn.elim (fun h => firstGroup_keeps h hc he) (fun h => h.keeps hc he)
  induction n generalizing e with
  | alt a b iha ihb =>
    rcases mem_ways_alt.mp he with he | he
    · exact iha hn.1 he
    · exact ihb hn.2 he
  | seq a b =>
    obtain ⟨m, hm, he⟩ := mem_ways_seq.mp he
    have hk := hone hn.1 hm
    obtain ⟨t, ht, -⟩ := hk
    exact (hone hn.1 hm).trans (hn.2.keeps (ht.placed hc) he)
  | _ => exact hone hn he

end Pattern.Node

theorem withoutBreaks_of_scan {n : Node Nat} (hn : n.TakesInFirstGroup) {origin : Nat}
    {advance : Bool} {c : Cursor} {out : List Char} (hc : c.Placed)
    (h : Scan n origin advance c out) : withoutBreaks out = withoutBreaks c.after := by
  induction h with
  | done _ stop => rw [stop]
  | @skip _ _ _ _ x _ _ next _ ih =>
    rw [next.after, withoutBreaks_append, ← List.singleton_append, withoutBreaks_append,
      ih (next.placed hc)]
  | @hit origin advance c e others out found _ ih =>
    have he : e ∈ n.matchesAt origin advance c := by
      rw [found]
      exact List.mem_cons_self
    obtain ⟨t, ht, hb⟩ := hn.keeps hc (Node.mem_matchesAt.mp he).1
    have hb' : withoutBreaks ((e.captured? 1).getD []) = withoutBreaks t := hb
    have hafter : c.after = t ++ e.cursor.after := ht.after
    rw [withoutBreaks_append, hb', ih (ht.placed hc), hafter, withoutBreaks_append]

theorem withoutBreaks_keepFirstGroup {p : Pattern} (hp : p.root.KeepsCharacters)
    (text : List Char) : withoutBreaks (p.keepFirstGroup text) = withoutBreaks text :=
  withoutBreaks_of_scan hp.alternatives (Cursor.placed_start text)
    (scan_keepFirstGroup hp.whole text)

theorem withoutBreaks_rewriteText {ps : List Pattern} (hps : ∀ p ∈ ps, p.root.KeepsCharacters)
    (text : List Char) : withoutBreaks (rewriteText ps text) = withoutBreaks text := by
  induction ps generalizing text with
  | nil => rfl
  | cons p ps ih =>
    rw [rewriteText, List.foldl_cons]
    exact (ih (fun q hq => hps q (List.mem_cons_of_mem p hq)) _).trans
      (withoutBreaks_keepFirstGroup (hps p List.mem_cons_self) text)

/-- The tree of a rule keeps all characters, whatever the two sides take. -/
theorem ruleNode_keepsCharacters (ignoreCase : Bool) {before after : Node Nat}
    (hbefore : before.setsStart = false) (hafter : after.setsStart = false)
    (hgroup : after.setsGroup 1 = false) :
    (Rule.node ignoreCase before after).KeepsCharacters := by
  have hcr (c : Char) (h : acceptsChar ignoreCase (.code 13) c = true) : isBreakChar c = true := by
    rw [acceptsChar_carriage, beq_iff_eq] at h
    exact h ▸ rfl
  have hlf (c : Char) (h : acceptsChar ignoreCase (.code 10) c = true) : isBreakChar c = true := by
    rw [acceptsChar_feed, beq_iff_eq] at h
    exact h ▸ rfl
  refine ⟨⟨.inl rfl, ⟨⟨⟨hcr, hlf⟩, hcr, hlf⟩, trivial⟩, ?_⟩,
    ruleNode_setsStart ignoreCase hbefore hafter⟩
  simp [Rule.breakNode, Node.setsGroup, hgroup]

theorem patternsOfValue_outcome {data : Value} {o : Options} {records : List Record}
    {ps : List Pattern} (ho : (Options.ofValue data).outcome = (.ok o, records))
    (hps : compileRules o = .ok ps) : (patternsOfValue data).outcome = (.ok ps, records) := by
  have hrun : ((Options.ofValue data).mapError RewriteError.options).run.run [] =
      (.ok o, records) := by
    have h : (Options.ofValue data).run.run [] = (.ok o, records) := ho
    simp only [Logged.mapError, ExceptT.run_mk, StateT.run_map, h]
    rfl
  have hof : (patternsOf o).run.run records = (.ok ps, records) := by
    rw [patternsOf, hps]
    rfl
  simp only [patternsOfValue, Logged.outcome, ExceptT.run_bind, StateT.run_bind, hrun]
  exact hof

theorem removeBreaks_of_patterns {data : Value} {records : List Record} {ps : List Pattern}
    (h : (patternsOfValue data).outcome = (.ok ps, records)) (text : String) :
    (removeBreaks (.str text) data).outcome = (.ok (rewriteString ps text), records) := by
  have hrun : (patternsOfValue data).run.run [] = (.ok ps, records) := h
  simp only [removeBreaks, Value.text?, Logged.outcome, ExceptT.run_bind, StateT.run_bind, hrun]
  rfl

theorem removeBreaks_outcome {data : Value} {text : String} {o : Options} {records : List Record}
    {ps : List Pattern} (ho : (Options.ofValue data).outcome = (.ok o, records))
    (hps : compileRules o = .ok ps) :
    (removeBreaks (.str text) data).outcome = (.ok (rewriteString ps text), records) :=
  removeBreaks_of_patterns (patternsOfValue_outcome ho hps) text

/-- A single rule gives a single pattern. -/
theorem compileRules_single {o : Options} {r : Rule} {p : Pattern} (hrule : o.rules = [r])
    (hp : r.compile (Units.unitText o.extensions) = .ok p) : compileRules o = .ok [p] := by
  rw [compileRules, hrule, List.mapM_cons, hp]
  rfl

end LineJoin
