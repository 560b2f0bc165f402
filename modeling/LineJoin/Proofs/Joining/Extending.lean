import LineJoin.Proofs.Joining.InTurn
import LineJoin.Proofs.Joining.UnitGrammar

/-!
# More extensions

With more extensions more texts are units, so each rule deletes more. The rules after it then see longer
lines before the breaks, and a condition that holds of a line holds of every longer one that ends like
it. So of the two runs the one with more extensions stays ahead from rule to rule.
-/

namespace LineJoin

/-- Every extension that is on in the first is on in the second. -/
structure Extensions.Within (x y : Extensions) : Prop where
  hangul : x.hangul = true → y.hangul = true
  emoji : x.emoji = true → y.emoji = true
  squared : x.squared = true → y.squared = true

namespace Units

variable {x y : Extensions} (h : x.Within y)

include h

theorem InTables.within {c : Char} (hc : InTables x c) : InTables y c := by
  rcases hc with hbase | ⟨hx, hhangul⟩ | hspan | ⟨hx, hsquared⟩
  · exact .inl hbase
  · exact .inr (.inl ⟨h.hangul hx, hhangul⟩)
  · exact .inr (.inr (.inl hspan))
  · exact .inr (.inr (.inr ⟨h.squared hx, hsquared⟩))

theorem UnitText.within {t : List Char} (ht : UnitText x t) : UnitText y t := by
  rcases unitText_iff.mp ht with ⟨c, rfl, hc⟩ | ⟨hx, hemoji⟩
  · exact unitText_iff.mpr (.inl ⟨c, rfl, hc.within h⟩)
  · exact unitText_iff.mpr (.inr ⟨h.emoji hx, hemoji⟩)

end Units

theorem isUnit_within {x y : Extensions} (h : x.Within y) {t : List Char} (ht : isUnit x t = true) :
    isUnit y t = true :=
  (isUnit_iff_unitText y t).mpr (((isUnit_iff_unitText x t).mp ht).within h)

theorem admitsChar_within {x y : Extensions} (h : x.Within y) {side : Option String} {c : Char}
    (hc : admitsChar x side c = true) : admitsChar y side c = true := by
  rcases Bool.or_eq_true_iff.mp hc with hunit | hclass
  · exact Bool.or_eq_true_iff.mpr (.inl (isUnit_within h hunit))
  · exact Bool.or_eq_true_iff.mpr (.inr hclass)

namespace BreakTest

/-- Where the first condition holds, the second one does. -/
def Within (d e : BreakTest) : Prop := ∀ before next, d before next = true → e before next = true

/-- Where the first condition holds, the second one does, also of a longer line. -/
def Below (d e : BreakTest) : Prop :=
  ∀ before line next, before <+: line → d before next = true → e line next = true

section Ahead

variable {d e : BreakTest} (h : d.Within e)

include h

/-- The more breaks are gone, the longer is the line. -/
theorem lineLeft_mono (before : List Char) (next : Option Char) :
    d.lineLeft before next <+: e.lineLeft before next := by
  fun_induction lineLeft d before next with
  | case1 => exact List.nil_prefix
  | case2 next before hdrop ih => rwa [lineLeft, if_pos (h _ _ hdrop)]
  | case3 => exact List.nil_prefix
  | case4 next c before hpair hc hdrop ih =>
    rw [lineLeft, if_pos hc, if_pos (h _ _ hdrop)]
    · exact ih
    · exact hpair
  | case5 => exact List.nil_prefix
  | case6 next c before hpair hc ih =>
    rw [lineLeft, if_neg hc]
    · exact List.cons_prefix_cons.mpr ⟨rfl, ih⟩
    · exact hpair

theorem Within.andThen {f g : BreakTest} (hfg : f.Below g) : (d.andThen f).Within (e.andThen g) := by
  intro before next hdrop
  rcases Bool.or_eq_true_iff.mp hdrop with hfirst | hsecond
  · exact Bool.or_eq_true_iff.mpr (.inl (h before next hfirst))
  · exact Bool.or_eq_true_iff.mpr (.inr (hfg _ _ next (lineLeft_mono h before none) hsecond))

theorem Within.foldl_andThen {ds es : List BreakTest} (hall : List.Forall₂ Below ds es) :
    (ds.foldl BreakTest.andThen d).Within (es.foldl BreakTest.andThen e) := by
  induction hall generalizing d e with
  | nil => exact h
  | cons hfg _ ih => exact ih (h.andThen hfg)

end Ahead

/-- Conditions in turn delete at least what conditions below them do. -/
theorem inTurn_within {ds es : List BreakTest} (hall : List.Forall₂ Below ds es) :
    (inTurn ds).Within (inTurn es) :=
  Within.foldl_andThen (d := fun _ _ => false) (e := fun _ _ => false) (fun _ _ h => h) hall

end BreakTest

theorem Rule.below_joinsText {x y : Extensions} (h : x.Within y) (r : Rule) :
    (r.joinsText x).Below (r.joinsText y) := by
  intro before line next hline hjoins
  obtain ⟨hbefore, hafter⟩ := Bool.and_eq_true_iff.mp hjoins
  refine Bool.and_eq_true_iff.mpr ⟨?_, ?_⟩
  · rcases Bool.or_eq_true_iff.mp hbefore with hunit | hclass
    · obtain ⟨u, hu, hunit⟩ := List.any_eq_true.mp hunit
      have hsuffix := ((List.mem_tails _ _).mp hu).trans (List.reverse_suffix.mpr hline)
      refine Bool.or_eq_true_iff.mpr (.inl (List.any_eq_true.mpr ?_))
      exact ⟨u, (List.mem_tails _ _).mpr hsuffix, isUnit_within h hunit⟩
    · obtain ⟨c, hhead, hc⟩ := (Option.any_eq_true _ _).mp hclass
      obtain ⟨u, rfl⟩ := List.head?_eq_some_iff.mp hhead
      obtain ⟨w, rfl⟩ := hline
      exact Bool.or_eq_true_iff.mpr (.inr hc)
  · obtain ⟨c, rfl, hc⟩ := (Option.any_eq_true _ _).mp hafter
    exact admitsChar_within h hc

theorem within_lineTests {x y : Extensions} (h : x.Within y) (rules : List Rule) :
    (BreakTest.inTurn (lineTests x rules)).Within (BreakTest.inTurn (lineTests y rules)) := by
  refine BreakTest.inTurn_within ?_
  rw [lineTests, lineTests, List.forall₂_map_left_iff, List.forall₂_map_right_iff, List.forall₂_same]
  exact fun r _ => r.below_joinsText h

/-- Rules with bracket classes delete in one pass, and what is left tells which breaks are gone. -/
theorem removeBreaks_inTurn {data : Value} {o : Options} {records : List Record}
    (ho : (Options.ofValue data).outcome = (.ok o, records))
    (h : ∀ r ∈ o.additionalRules, r.HasClassSides) (text : String) :
    ∃ out, (removeBreaks (.str text) data).outcome = (.ok out, records) ∧
      (BreakTest.inTurn (lineTests o.extensions o.rules)).Leaves text.toList out.toList := by
  have htests := onLine_lineTests (x := o.extensions) (Options.hasClassSides h)
  refine ⟨_, removeBreaks_deleteEach ho h text, ?_⟩
  rw [String.toList_ofList, deleteEach_eq_deleteWhere htests]
  exact (BreakTest.between_inTurn htests).leaves text.toList

/-- With more extensions and the same rules, which have bracket classes, more breaks go: every break
that is deleted is deleted then as well. -/
theorem removeBreaks_extended {data data' : Value} {o o' : Options} {records records' : List Record}
    (ho : (Options.ofValue data).outcome = (.ok o, records))
    (ho' : (Options.ofValue data').outcome = (.ok o', records'))
    (hsame : o'.additionalRules = o.additionalRules)
    (hwithin : o.extensions.Within o'.extensions)
    (hclass : ∀ r ∈ o.additionalRules, r.HasClassSides) (text : String) :
    let gone := BreakTest.inTurn (lineTests o.extensions o.rules)
    let gone' := BreakTest.inTurn (lineTests o'.extensions o'.rules)
    ∃ out out', (removeBreaks (.str text) data).outcome = (.ok out, records) ∧
      (removeBreaks (.str text) data').outcome = (.ok out', records') ∧
      gone.Leaves text.toList out.toList ∧ gone'.Leaves text.toList out'.toList ∧
      ∀ before next, gone before next = true → gone' before next = true := by
  intro gone gone'
  obtain ⟨out, hout, hleaves⟩ := removeBreaks_inTurn ho hclass text
  obtain ⟨out', hout', hleaves'⟩ := removeBreaks_inTurn ho' (hsame ▸ hclass) text
  have hrules : o'.rules = o.rules := by rw [Options.rules, Options.rules, hsame]
  refine ⟨out, out', hout, hout', hleaves, hleaves', ?_⟩
  have hgone : gone' = BreakTest.inTurn (lineTests o'.extensions o.rules) :=
    congrArg (fun rules => BreakTest.inTurn (lineTests o'.extensions rules)) hrules
  rw [hgone]
  exact within_lineTests hwithin o.rules

/-- With emoji as units the break next to one goes as well. -/
theorem removeBreaks_extended_emoji :
    let letter : Rule := ⟨some "[a-z]", none⟩
    let rules : Value × Value := (.str "additionalRegexpPairs", .list [.rule letter])
    let data : Value := .dict [rules]
    let data' : Value := .dict [(.str "includeEmoji", .bool true), rules]
    let o : Options := { additionalRules := [letter] }
    let o' : Options := { extensions := { emoji := true }, additionalRules := [letter] }
    ((Options.ofValue data).outcome = (.ok o, []) ∧ (Options.ofValue data').outcome = (.ok o', []) ∧
        o'.additionalRules = o.additionalRules ∧ o.extensions.Within o'.extensions ∧
        ∀ r ∈ o.additionalRules, r.HasClassSides) ∧
      (removeBreaks (.str "字\n😀\na\n字") data).outcome = (.ok "字\n😀\na字", []) ∧
      (removeBreaks (.str "字\n😀\na\n字") data').outcome = (.ok "字😀\na字", []) := by
  intro letter rules data data' o o'
  have ho : (Options.ofValue data).outcome = (.ok o, []) := by rfl
  have ho' : (Options.ofValue data').outcome = (.ok o', []) := by rfl
  have hwithin : o.extensions.Within o'.extensions := ⟨nofun, nofun, nofun⟩
  have hclass : ∀ r ∈ o.additionalRules, r.HasClassSides :=
    List.forall_mem_singleton.mpr Rule.hasClassSides_letters
  obtain ⟨out, out', hout, hout', hleaves, hleaves', -⟩ :=
    removeBreaks_extended ho ho' rfl hwithin hclass "字\n😀\na\n字"
  have hfirst : out.toList = ['字', '\n', '😀', '\n', 'a', '字'] := by
    rw [← hleaves.deleteWhere_eq]
    change deleteWhere (BreakTest.inTurn [letter.joinsText o.extensions]) [] _ = _
    rw [Rule.joinsText_before o.extensions (by decide) Pattern.isClass_letters]
    decide +kernel
  have hsecond : out'.toList = ['字', '😀', '\n', 'a', '字'] := by
    rw [← hleaves'.deleteWhere_eq]
    change deleteWhere (BreakTest.inTurn [letter.joinsText o'.extensions]) [] _ = _
    rw [Rule.joinsText_before o'.extensions (by decide) Pattern.isClass_letters]
    decide +kernel
  rw [hout, hout']
  refine ⟨⟨ho, ho', rfl, hwithin, hclass⟩, ?_, ?_⟩
  · rw [← String.ofList_toList (s := out), hfirst]
  · rw [← String.ofList_toList (s := out'), hsecond]

end LineJoin
