import LineJoin.Proofs.Joining.Deletion
import LineJoin.Proofs.Joining.Kept
import LineJoin.Proofs.Joining.RuleTree
import Mathlib.Data.List.Infix

/-!
# Breaks between units

Without additional rules a line break is deleted exactly if the text before it ends with a unit and
the text after it begins with one. The tree of a unit is plain and takes no line breaks, so the
search for matches deletes what `deleteBreaks` deletes.
-/

namespace LineJoin

open Pattern

namespace Units

theorem plain_node (x : Extensions) (i : Bool) : (node x i).Plain := by
  rw [node, branches]
  cases x.emoji <;> repeat' constructor

/-- A test that accepts neither a carriage return nor a line feed. -/
def avoidsBreaks (test : CharTest) : Bool := !test.accepts 13 && !test.accepts 10

theorem takesOnly_char {t : CharTest} (h : avoidsBreaks t = true) :
    (Node.char false t).TakesOnly fun c => isBreakChar c = false := by
  intro c hc
  rw [Bool.eq_false_iff]
  intro hbreak
  simp only [isBreakChar, Bool.or_eq_true, beq_iff_eq] at hbreak
  simp only [avoidsBreaks, Bool.and_eq_true, Bool.not_eq_true'] at h
  rcases hbreak with rfl | rfl
  · exact Bool.false_ne_true (h.1.symm.trans hc)
  · exact Bool.false_ne_true (h.2.symm.trans hc)

theorem avoidsBreaks_class (x : Extensions) :
    avoidsBreaks (.set true (classItems (properties x) (spans x))) = true := by
  obtain ⟨hangul, emoji, squared⟩ := x
  revert hangul squared
  cases emoji <;> decide +kernel

/-- No unit contains a line break. -/
theorem takesOnly_node (x : Extensions) :
    (node x false).TakesOnly fun c => isBreakChar c = false := by
  have hclass := takesOnly_char (avoidsBreaks_class x)
  have hproperty {p : Property} (h : avoidsBreaks (.property p true) = true) :
      (propertyNode p false).TakesOnly fun c => isBreakChar c = false := takesOnly_char h
  have hcode {c : Nat} (h : avoidsBreaks (.code c) = true) :
      (codeNode c false).TakesOnly fun c => isBreakChar c = false := takesOnly_char h
  have hemoji := hproperty (p := .emoji) (by decide +kernel)
  have hpresentation := hproperty (p := .emojiPresentation) (by decide +kernel)
  have hbase := hproperty (p := .emojiModifierBase) (by decide +kernel)
  have hmodifier := hproperty (p := .emojiModifier) (by decide +kernel)
  have hregional := hproperty (p := .regionalIndicator) (by decide +kernel)
  have hselector := hcode (c := 0xFE0F) (by decide)
  have hmark := hcode (c := 0x20E3) (by decide)
  have hjoiner := hcode (c := 0x200D) (by decide)
  have hend := hcode (c := 0xE007F) (by decide)
  have hkeys := takesOnly_char (t := .set true keyItems) (by decide)
  have htags := takesOnly_char (t := .set true tagItems) (by decide)
  have helement : (elementNode false).TakesOnly fun c => isBreakChar c = false :=
    ⟨hemoji, ⟨hemoji, hselector⟩, hbase, hmodifier⟩
  rw [node, branches]
  cases x.emoji with
  | false => exact hclass
  | true =>
    exact ⟨hclass, hpresentation, hemoji, ⟨hemoji, hselector⟩, ⟨hkeys, hselector, hmark⟩,
      ⟨hbase, hmodifier⟩, ⟨hregional, hregional⟩, ⟨helement, hjoiner, helement⟩,
      ⟨hemoji, ⟨hbase, hmodifier⟩, hemoji, hselector⟩, htags, hend⟩

end Units

theorem isUnit_eq (x : Extensions) (text : List Char) :
    isUnit x text = (Units.node x false).matchesAll text := by
  obtain ⟨p, hp, hroot⟩ := recogniser_root x
  rw [isUnit, hp]
  exact congrArg (fun n => Node.matchesAll n text) hroot

theorem isUnit_iff (x : Extensions) (text : List Char) :
    isUnit x text = true ↔ (Units.node x false).Matches text := by
  rw [isUnit_eq]
  exact Node.matchesAll_iff (Units.plain_node x false)

/-- The text before a place, nearest character first, ends with a unit, and the text after it begins
with one. -/
def betweenUnits (x : Extensions) (before after : List Char) : Bool :=
  before.reverse.tails.any (isUnit x) && after.inits.any (isUnit x)

theorem betweenUnits_iff (x : Extensions) (before after : List Char) :
    betweenUnits x before after = true ↔
      (Units.node x false).EndsText before ∧ (Units.node x false).BeginsText after := by
  rw [betweenUnits, Bool.and_eq_true, List.any_eq_true, List.any_eq_true, Node.EndsText,
    Node.BeginsText]
  simp only [List.mem_tails, List.mem_inits, isUnit_iff, and_comm]

/-- The test with the tree of a unit, which can be evaluated without reading its pattern. -/
theorem betweenUnits_eq (x : Extensions) : betweenUnits x = fun before after =>
    before.reverse.tails.any (Units.node x false).matchesAll &&
      after.inits.any (Units.node x false).matchesAll := by
  funext before after
  rw [betweenUnits, funext (isUnit_eq x)]

/-- Without additional rules there is one pattern, with a unit on both sides. -/
theorem compileRules_units {o : Options} (h : o.additionalRules = []) :
    ∃ p, compileRules o = .ok [p] ∧
      p.root = Rule.node false (Units.node o.extensions false) (Units.node o.extensions false) := by
  obtain ⟨p, hp, hroot⟩ := compile_units o.extensions
  have hrule : o.rules = [{}] := by
    rw [Options.rules, h]
    rfl
  exact ⟨p, compileRules_single hrule hp, hroot⟩

theorem rewriteText_betweenUnits {o : Options} (h : o.additionalRules = []) :
    ∃ ps, compileRules o = .ok ps ∧
      ∀ text, rewriteText ps text = deleteBreaks (betweenUnits o.extensions) [] text := by
  obtain ⟨p, hcompile, hroot⟩ := compileRules_units h
  refine ⟨[p], hcompile, fun text => ?_⟩
  exact keepFirstGroup_eq_deleteBreaks (betweenUnits_iff o.extensions)
    (Units.plain_node o.extensions false) (Units.plain_node o.extensions false)
    (Units.takesOnly_node o.extensions) hroot text

/-- Without additional rules exactly the line breaks between units are removed. -/
theorem removeBreaks_units {data : Value} {o : Options} {records : List Record}
    (ho : (Options.ofValue data).outcome = (.ok o, records)) (hrules : o.additionalRules = [])
    (text : String) :
    (removeBreaks (.str text) data).outcome =
      (.ok (String.ofList (deleteBreaks (betweenUnits o.extensions) [] text.toList)), records) := by
  obtain ⟨ps, hcompile, hdelete⟩ := rewriteText_betweenUnits hrules
  rw [removeBreaks_outcome ho hcompile, rewriteString, hdelete]

/-- With emoji as units: breaks next to an emoji go, one next to a letter stays. -/
theorem removeBreaks_units_emoji :
    let data : Value := .dict [(.str "includeEmoji", .bool true)]
    let o : Options := { extensions := { emoji := true } }
    (Options.ofValue data).outcome = (.ok o, []) ∧ o.additionalRules = [] ∧
      (removeBreaks (.str "字\n😀\r\n字\na") data).outcome = (.ok "字😀字\na", []) := by
  intro data o
  have ho : (Options.ofValue data).outcome = (.ok o, []) := by rfl
  have hrules : o.additionalRules = [] := rfl
  have hout : deleteBreaks (fun before after =>
      before.reverse.tails.any (Units.node o.extensions false).matchesAll &&
        after.inits.any (Units.node o.extensions false).matchesAll) []
      ['字', '\n', '😀', '\r', '\n', '字', '\n', 'a'] = ['字', '😀', '字', '\n', 'a'] := by
    decide +kernel
  refine ⟨ho, hrules, ?_⟩
  rw [removeBreaks_units ho hrules, betweenUnits_eq,
    show "字\n😀\r\n字\na".toList = _ from String.toList_ofList, hout]

end LineJoin
