import LineJoin.Proofs.Joining.Containment
import LineJoin.Proofs.Joining.OptionsReading
import LineJoin.Proofs.Pattern.Spelling

/-!
# Rules whose fragments spell simple trees

A fragment that spells a simple tree is read in its side as it is alone, so the side takes a unit or
a text that the fragment matches. The trees of both sides are plain, so a single rule deletes exactly
the breaks between such texts, unless the fragment before the break takes line breaks itself.
-/

namespace LineJoin

open Pattern Reader ReadState

/-- Whether a fragment, as a pattern of its own, matches a whole text. -/
def fragmentMatches (fragment : String) (text : List Char) : Bool :=
  match Pattern.read fragment.toList with
  | .ok p => p.root.matchesAll text
  | .error _ => false

/-- A text is admitted on a side if it is a unit or the fragment there, if any, matches it. -/
def admitsText (x : Extensions) (side : Option String) (text : List Char) : Bool :=
  isUnit x text || side.any fun fragment => fragment != "" && fragmentMatches fragment text

/-- There is no fragment, or it spells a simple tree with tests of a kind. -/
def SimpleSide (kind : CharTest → Prop) (side : Option String) : Prop :=
  ∀ f, side = some f → f ≠ "" → ∃ t, SpelledBy f.toList t ∧ ∀ test ∈ t.tests, kind test

namespace Rule

/-- The text before a break, nearest character first, ends with a text that is admitted there, and
the text after it begins with one. -/
def admitsBetween (x : Extensions) (r : Rule) (before after : List Char) : Bool :=
  before.reverse.tails.any (admitsText x r.before) && after.inits.any (admitsText x r.after)

/-- The tree of a side, and the texts that it takes. -/
structure TextTree (x : Extensions) (side : Option String) (n : Node Nat) : Prop where
  read : ∃ (text : List Char) (m : Node Ref),
    (sidePattern (Units.unitText x) side).toList = '(' :: text ∧ ReadsBare ('(' :: text) m ∧
      ∀ f : Ref → Except Fault Nat, m.resolve f = .ok n
  plain : n.Plain
  texts : ∀ t, n.Matches t ↔ admitsText x side t = true

end Rule

section Sides

variable {x : Extensions} {fragment : String} {t : Simple}

theorem fragmentMatches_eq (h : SpelledBy fragment.toList t) (text : List Char) :
    fragmentMatches fragment text = (t.node : Node Nat).matchesAll text := by
  obtain ⟨p, hp, hroot⟩ := h.read
  rw [fragmentMatches, hp]
  exact congrArg (fun n => Node.matchesAll n text) hroot

theorem fragmentMatches_iff (h : SpelledBy fragment.toList t) (text : List Char) :
    fragmentMatches fragment text = true ↔ t.Matches text := by
  rw [fragmentMatches_eq h]
  exact Node.matchesAll_iff t.plain_node

theorem admitsText_none (text : List Char) : admitsText x none text = isUnit x text :=
  Bool.or_false _

theorem admitsText_some (hne : fragment ≠ "") (text : List Char) :
    admitsText x (some fragment) text = (isUnit x text || fragmentMatches fragment text) := by
  rw [admitsText, Option.any_some, bne_iff_ne.mpr hne, Bool.true_and]

/-- Whether a text is a unit or one of a tree, which can be evaluated without reading patterns. -/
def takesText (x : Extensions) (t : Simple) (text : List Char) : Bool :=
  (Units.node x false).matchesAll text || (t.node : Node Nat).matchesAll text

theorem admitsText_eq (hne : fragment ≠ "") (h : SpelledBy fragment.toList t) :
    admitsText x (some fragment) = takesText x t := by
  funext text
  rw [admitsText_some hne, isUnit_eq, fragmentMatches_eq h, takesText]

theorem Rule.admitsBetween_eq {f g : String} {b a : Simple} (hf : f ≠ "") (hg : g ≠ "")
    (hb : SpelledBy f.toList b) (ha : SpelledBy g.toList a) :
    Rule.admitsBetween x ⟨some f, some g⟩ = fun before after =>
      before.reverse.tails.any (takesText x b) && after.inits.any (takesText x a) := by
  funext before after
  rw [admitsBetween, admitsText_eq hf hb, admitsText_eq hg ha]

/-- A side is read with the tree that its fragment spells. -/
theorem readsBare_sideText {text : List Char} (h : SpelledBy text t) :
    ReadsBare (Units.sideText x text) (Units.sideNode x false t.node) := by
  obtain ⟨ts, bs, hspells, rfl⟩ := h
  intro fuel s rest hfuel hs hrest
  -- The fragment is the last branch of its side and stands in parentheses of its own.
  obtain ⟨k, hk, -, hside⟩ := run_side_sequence hs.level hrest hfuel
  rw [wholeFuel] at hk
  obtain ⟨k, rfl⟩ : ∃ j, k = j + 1 := ⟨k - 1, by omega⟩
  let u := atFragment x text rest s
  have hinside : u.rest = '(' :: '?' :: ':' :: (text ++ ')' :: ')' :: ')' :: rest) := by
    simp [u, atFragment, past, inParentheses]
  have hfragment := (hspells.reads.group (s := u) (hs.past _ _) hinside
    (show 2 * text.length ≤ k by omega) {}).trans
      (run_readSequence_end (ends_close (')' :: rest)) _ _)
  have hcase : s.flags.ignoreCase = false := by rw [hs.flags]
  have hpast : (u.past (text.length + 4) (')' :: ')' :: rest)).past 1 (')' :: rest) =
      s.past (Units.sideText x text).length (')' :: rest) := by
    simp only [u, atFragment, past_past, Units.sideText, inParentheses, List.length_cons,
      List.length_append, List.length_nil]
    congr 1
    omega
  have hlevel := hs.level.body (Units.sideText x text).length (')' :: rest)
  rw [← hpast] at hlevel
  rw [hside _ _ hfragment rfl, hcase, ← hpast]
  exact congrArg (fun v => Except.ok (_, v)) hlevel

namespace Rule

theorem textTree_unit {side : Option String}
    (htext : (sidePattern (Units.unitText x) side).toList = Units.plainText x)
    (hadmits : ∀ text, admitsText x side text = isUnit x text) :
    TextTree x side (Units.node x false) where
  read := ⟨_, _, htext, (readsElement_unit x).bare (List.cons_ne_nil _ _),
    fun f => resolve_unitNode f x false⟩
  plain := Units.plain_node x false
  texts text := by rw [hadmits, isUnit_iff]

theorem textTree_spelled (hne : fragment ≠ "") (h : SpelledBy fragment.toList t) :
    TextTree x (some fragment) (Units.sideNode x false t.node) where
  read := ⟨_, _, Units.sideText_toList x hne, readsBare_sideText h,
    fun f => Units.resolve_sideNode x false (t.resolve_node f)⟩
  plain := Units.plain_sideNode x t.plain_node
  texts text := by
    rw [Units.matches_sideNode_iff, admitsText_some hne, Bool.or_eq_true, fragmentMatches_iff h]
    rfl

/-- A side has a tree, which takes no line breaks if the tests in its fragment do not. -/
theorem exists_textTree (x : Extensions) {kind : CharTest → Prop} {side : Option String}
    (h : SimpleSide kind side) : ∃ n, TextTree x side n ∧
      ((∀ test, kind test → Units.avoidsBreaks test = true) →
        n.TakesOnly fun c => isBreakChar c = false) := by
  match side, h with
  | none, _ =>
    exact ⟨_, textTree_unit (Units.plainText_toList x) admitsText_none,
      fun _ => Units.takesOnly_node x⟩
  | some fragment, h =>
    by_cases hne : fragment = ""
    · subst hne
      exact ⟨_, textTree_unit (Units.plainText_toList x) admitsText_none,
        fun _ => Units.takesOnly_node x⟩
    · obtain ⟨t, hspelled, htests⟩ := h fragment rfl hne
      refine ⟨_, textTree_spelled hne hspelled, fun havoids => Units.takesOnly_sideNode x ?_⟩
      exact Simple.takesOnly_node fun test htest =>
        Units.takesOnly_char (havoids test (htests test htest))

/-- A rule whose fragments spell simple trees deletes the breaks between admitted texts. -/
theorem keepFirstGroup_admitsBetween (x : Extensions) {r : Rule}
    (hbefore : SimpleSide (fun test => Units.avoidsBreaks test = true) r.before)
    (hafter : SimpleSide (fun _ => True) r.after) :
    ∃ p, r.compile (Units.unitText x) = .ok p ∧
      ∀ text, p.keepFirstGroup text = deleteBreaks (r.admitsBetween x) [] text := by
  obtain ⟨b, hb, hkind⟩ := exists_textTree x hbefore
  obtain ⟨a, ha, -⟩ := exists_textTree x hafter
  obtain ⟨y, m, hy, hreadBefore, hresolveBefore⟩ := hb.read
  obtain ⟨z, n, hz, hreadAfter, hresolveAfter⟩ := ha.read
  obtain ⟨p, hp, hroot⟩ :=
    compile_of_sides hy hz hreadBefore hreadAfter hresolveBefore hresolveAfter
  refine ⟨p, hp, fun text => ?_⟩
  refine keepFirstGroup_eq_deleteBreaks (fun before after => ?_) hb.plain ha.plain
    (hkind fun _ h => h) hroot text
  rw [admitsBetween, Bool.and_eq_true, List.any_eq_true, List.any_eq_true, Node.EndsText,
    Node.BeginsText]
  simp only [List.mem_tails, List.mem_inits, hb.texts, ha.texts, and_comm]

end Rule

end Sides

/-- A single rule whose fragments spell simple trees removes a line break exactly if the text before
it ends with a text that is admitted there and the text after it begins with one. -/
theorem removeBreaks_simpleRule {data : Value} {o : Options} {records : List Record} {r : Rule}
    (ho : (Options.ofValue data).outcome = (.ok o, records)) (hrule : o.additionalRules = [r])
    (hbefore : SimpleSide (fun test => Units.avoidsBreaks test = true) r.before)
    (hafter : SimpleSide (fun _ => True) r.after) (text : String) :
    (removeBreaks (.str text) data).outcome =
      (.ok (String.ofList (deleteBreaks (r.admitsBetween o.extensions) [] text.toList)), records) := by
  obtain ⟨p, hp, hdelete⟩ := Rule.keepFirstGroup_admitsBetween o.extensions hbefore hafter
  have hcompile : compileRules o = .ok [p] := by
    rw [compileRules, Options.rules, hrule]
    simp only [List.isEmpty_cons, Bool.false_eq_true, if_false, List.mapM_cons, List.mapM_nil, hp]
    rfl
  rw [removeBreaks_outcome ho hcompile, rewriteString]
  exact congrArg (fun out => (Except.ok (String.ofList out), records)) (hdelete text.toList)

theorem simpleSide_of_spelledBy {kind : CharTest → Prop} {fragment : String} {t : Simple}
    (h : SpelledBy fragment.toList t) (htests : ∀ test ∈ t.tests, kind test) :
    SimpleSide kind (some fragment) := by
  intro f hf _
  cases hf
  exact ⟨t, h, htests⟩

/-- A group with a quantifier before a break and counts after it. -/
theorem removeBreaks_simpleRule_ascii :
    let r : Rule := ⟨some "(?:ab|[0-9])+", some "#\x7b1,2\x7d?"⟩
    let data : Value := .dict [(.str "additionalRegexpPairs", .list [.rule r])]
    let o : Options := { additionalRules := [r] }
    ((Options.ofValue data).outcome = (.ok o, []) ∧ o.additionalRules = [r] ∧
        SimpleSide (fun test => Units.avoidsBreaks test = true) r.before ∧
        SimpleSide (fun _ => True) r.after) ∧
      (removeBreaks (.str "字\nab1\r\n#\nb\n#") data).outcome = (.ok "字\nab1#\nb\n#", []) := by
  intro r data o
  have ho : (Options.ofValue data).outcome = (.ok o, []) := by rfl
  let ab : Simple := .seq (.char (.code 97)) (.char (.code 98))
  let digit : Simple := .char (.set true [.span 48 57])
  let b : Simple := .repeated true 1 none (.alt ab digit)
  let a : Simple := .repeated false 1 (some 2) (.char (.code 35))
  have hinner : Spells "ab|[0-9]".toList [.char (.code 97), .char (.code 98)] [digit] :=
    .plain rfl rfl (.plain rfl rfl (.bar (@Spells.set _ [] [] _ _ _ _ isClass_digits .once .done)))
  have hbefore : SpelledBy "(?:ab|[0-9])+".toList b := by
    have htaken : ¬ (Simple.alt ab digit).Matches [] :=
      Simple.not_matches_of_matchesAll (by decide)
    exact ⟨[b], [], @Spells.group _ ['+'] [] _ _ _ _ _ hinner (.greedy .plus htaken) .done, rfl⟩
  have hcounts : QuantifierText ['\x7b', '1', ',', '2', '\x7d'] ⟨1, some 2⟩ :=
    @QuantifierText.between ['1'] ['2'] (List.forall_mem_singleton.mpr rfl) (by decide)
      (List.forall_mem_singleton.mpr rfl) (by decide) (by decide)
  have hafter : SpelledBy "#\x7b1,2\x7d?".toList a := by
    have htaken : ¬ (Simple.char (.code 35)).Matches [] :=
      Simple.not_matches_of_matchesAll (by decide)
    exact ⟨[a], [], @Spells.literal ['#'] ['\x7b', '1', ',', '2', '\x7d', '?'] [] _ _ _ _
      (.plain rfl rfl) (.reluctant hcounts htaken) .done, rfl⟩
  have hbeforeSide : SimpleSide (fun test => Units.avoidsBreaks test = true) r.before :=
    simpleSide_of_spelledBy hbefore (by decide)
  have hafterSide : SimpleSide (fun _ => True) r.after :=
    simpleSide_of_spelledBy hafter fun _ _ => trivial
  have hout : deleteBreaks (fun before after =>
      before.reverse.tails.any (takesText o.extensions b) &&
        after.inits.any (takesText o.extensions a)) []
      ['字', '\n', 'a', 'b', '1', '\r', '\n', '#', '\n', 'b', '\n', '#'] =
      ['字', '\n', 'a', 'b', '1', '#', '\n', 'b', '\n', '#'] := by
    decide +kernel
  refine ⟨⟨ho, rfl, hbeforeSide, hafterSide⟩, ?_⟩
  rw [removeBreaks_simpleRule ho rfl hbeforeSide hafterSide,
    Rule.admitsBetween_eq (by decide) (by decide) hbefore hafter,
    show "字\nab1\r\n#\nb\n#".toList = _ from String.toList_ofList, hout]

end LineJoin
