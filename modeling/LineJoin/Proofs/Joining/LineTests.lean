import LineJoin.Proofs.Joining.ClassRules
import LineJoin.Proofs.Joining.UnitTexts

/-!
# Conditions on the line before a break

No unit and no class of a rule goes beyond a line. So whether a rule with bracket classes deletes a
break depends on the line before the break and on the character after it, whether emoji are units or
not, and a list of rules deletes by such conditions one after the other. A break at the start of a
line or before another break stays: from there on deleting starts anew.
-/

namespace LineJoin

open Pattern

/-- The line that ends at a place, nearest character first. -/
def lineBefore (before : List Char) : List Char := before.takeWhile fun c => !isBreakChar c

theorem lineBefore_break {c : Char} (hc : isBreakChar c = true) (before : List Char) :
    lineBefore (c :: before) = [] := by
  simp [lineBefore, hc]

theorem lineBefore_cons {u v : List Char} (h : lineBefore u = lineBefore v) (c : Char) :
    lineBefore (c :: u) = lineBefore (c :: v) := by
  simp only [lineBefore, List.takeWhile_cons] at h ⊢
  rw [h]

theorem lineBefore_append {u v : List Char} (h : lineBefore u = lineBefore v) (w : List Char) :
    lineBefore (w ++ u) = lineBefore (w ++ v) := by
  induction w with
  | nil => exact h
  | cons c w ih => exact lineBefore_cons ih c

/-- A text without breaks ends where the line does. -/
theorem suffix_lineBefore_iff {u : List Char} (hu : ∀ c ∈ u, isBreakChar c = false)
    (before : List Char) : u <:+ (lineBefore before).reverse ↔ u <:+ before.reverse := by
  rw [← List.reverse_prefix, ← List.reverse_prefix, List.reverse_reverse, List.reverse_reverse]
  constructor
  · intro h
    exact h.trans (List.takeWhile_prefix _)
  · rintro ⟨r, rfl⟩
    have hline : ∀ c ∈ u.reverse, (!isBreakChar c) = true := fun c hc => by
      rw [hu c (List.mem_reverse.mp hc)]
      rfl
    rw [lineBefore, List.takeWhile_append_of_pos hline]
    exact List.prefix_append _ _

theorem head?_lineBefore_any {p : Char → Bool} (hp : ∀ c, p c = true → isBreakChar c = false)
    (before : List Char) : (lineBefore before).head?.any p = before.head?.any p := by
  cases before with
  | nil => rfl
  | cons c before =>
    cases hc : isBreakChar c with
    | false => simp [lineBefore, hc]
    | true =>
      rw [lineBefore_break hc, List.head?_nil, List.head?_cons, Option.any_none, Option.any_some]
      exact (Bool.eq_false_iff.mpr fun h => by rw [hp c h] at hc; cases hc).symm

namespace BreakTest

/-- A condition on the line before a break and the character after it. A break at the start of a
line is kept, and so is one before another break or at the end of the text. -/
structure OnLine (d : BreakTest) : Prop where
  line : ∀ before next, d (lineBefore before) next = d before next
  start : ∀ next, d [] next = false
  after : ∀ before next, d before next = true → ∃ c, next = some c ∧ isBreakChar c = false

namespace OnLine

variable {d : BreakTest} (hd : d.OnLine)

include hd

theorem congr {u v : List Char} (h : lineBefore u = lineBefore v) (next : Option Char) :
    d u next = d v next := by
  rw [← hd.line, h, hd.line]

theorem atBreak {c : Char} (hc : isBreakChar c = true) (before : List Char) (next : Option Char) :
    d (c :: before) next = false := by
  rw [← hd.line, lineBefore_break hc, hd.start]

theorem between : d.Between := ⟨fun _ before next hc => hd.atBreak hc before next, hd.after⟩

theorem beforeBreak {c : Char} (hc : isBreakChar c = true) (before : List Char) :
    d before (some c) = false := hd.between.beforeBreak hc before

theorem atEnd (before : List Char) : d before none = false := hd.between.atEnd before

end OnLine

end BreakTest

section Deleting

variable {d : BreakTest} (hd : d.OnLine)

include hd

/-- Only the line before a place counts. -/
theorem deleteWhere_congr {u v : List Char} (h : lineBefore u = lineBefore v) (text : List Char) :
    deleteWhere d u text = deleteWhere d v text := by
  induction text using token_induction generalizing u v with
  | nil => rfl
  | char c rest hc ih => rw [deleteWhere_char hc, deleteWhere_char hc, ih (lineBefore_cons h c)]
  | token b rest hb ih =>
    rw [deleteWhere_break hb, deleteWhere_break hb, hd.congr h,
      ih rest (List.suffix_refl _) (lineBefore_append h b.reverse)]

/-- After a break deleting starts anew. -/
theorem deleteWhere_atBreak {c : Char} (hc : isBreakChar c = true) (before text : List Char) :
    deleteWhere d (c :: before) text = deleteWhere d [] text :=
  deleteWhere_congr hd (lineBefore_break hc before) text

/-- At the start of a line a break character stays, even if it is one half of a break. -/
theorem deleteWhere_start {c : Char} (hc : isBreakChar c = true) (text : List Char) :
    deleteWhere d [] (c :: text) = c :: deleteWhere d [] text := by
  obtain ⟨b, rest, hsplit, hb, hb'⟩ := exists_isBreak hc text
  rw [hsplit, deleteWhere_break hb, hd.start]
  rcases hb' with rfl | ⟨rfl, rfl⟩
  · obtain rfl := (List.cons.inj hsplit).2
    exact congrArg (c :: ·) (deleteWhere_atBreak hd hc [] _)
  · obtain rfl : text = '\n' :: rest := (List.cons.inj hsplit).2
    have hfeed : deleteWhere d [] ('\n' :: rest) = '\n' :: deleteWhere d ['\n'] rest :=
      (deleteWhere_break (.feed rest)).trans (by rw [hd.start]; rfl)
    rw [hfeed]
    have hcarriage := deleteWhere_atBreak hd (c := '\n') rfl ['\r'] rest
    have hline := deleteWhere_atBreak hd (c := '\n') rfl [] rest
    exact congrArg (fun t => '\r' :: '\n' :: t) (hcarriage.trans hline.symm)

theorem deleteWhere_breaks {s : List Char} (hs : ∀ c ∈ s, isBreakChar c = true)
    (text : List Char) : deleteWhere d [] (s ++ text) = s ++ deleteWhere d [] text := by
  induction s with
  | nil => rfl
  | cons c s ih =>
    obtain ⟨hc, hs⟩ := List.forall_mem_cons.mp hs
    rw [List.cons_append, deleteWhere_start hd hc, ih hs]
    rfl

end Deleting

/-- Deletes for each condition in turn. -/
def deleteEach (ds : List BreakTest) (text : List Char) : List Char :=
  ds.foldl (fun t d => deleteWhere d [] t) text

theorem deleteEach_cons (d : BreakTest) (ds : List BreakTest) (text : List Char) :
    deleteEach (d :: ds) text = deleteEach ds (deleteWhere d [] text) := rfl

namespace Rule

/-- The text before a break ends with a unit or with a character that the fragment before it takes,
and the character after it is admitted there. -/
def joinsText (x : Extensions) (r : Rule) : BreakTest := fun before next =>
  (before.reverse.tails.any (isUnit x) || before.head?.any (fragmentTakes r.before)) &&
    next.any (admitsChar x r.after)

variable {x : Extensions} {r : Rule}

theorem ClassTree.endsText_iff {side : Option String} {n : Node Nat} (h : ClassTree x side n)
    (before : List Char) : n.EndsText before ↔ before.reverse.tails.any (isUnit x) = true ∨
      before.head?.any (fragmentTakes side) = true := by
  simp only [Node.EndsText, h.texts, or_and_right, exists_or, exists_char_suffix_iff,
    List.any_eq_true, List.mem_tails, and_comm (a := _ <:+ _)]

theorem ClassTree.beginsText_iff {side : Option String} {n : Node Nat} (h : ClassTree x side n)
    (after : List Char) : n.BeginsText after ↔ after.head?.any (admitsChar x side) = true := by
  simp only [Node.BeginsText, h.texts, or_and_right, exists_or, exists_unit_prefix_iff,
    exists_char_prefix_iff]
  cases after with
  | nil => simp
  | cons c after => exact Bool.or_eq_true_iff.symm

theorem onLine_joinsText (h : r.HasClassSides) : (r.joinsText x).OnLine where
  line before next := by
    have hunits : (lineBefore before).reverse.tails.any (isUnit x) =
        before.reverse.tails.any (isUnit x) := by
      rw [Bool.eq_iff_iff, List.any_eq_true, List.any_eq_true]
      simp only [List.mem_tails]
      refine exists_congr fun u => and_congr_left fun hu => ?_
      exact suffix_lineBefore_iff ((isUnit_iff_unitText x u).mp hu).isBreakChar before
    rw [joinsText, joinsText, hunits, head?_lineBefore_any fun _ => h.before.isBreakChar]
  start next := by
    have hempty : isUnit x [] = false := by
      rw [Bool.eq_false_iff, ne_eq, isUnit_iff_unitText]
      intro hunit
      obtain ⟨c, t, hnil, -⟩ := hunit.exists_first
      cases hnil
    simp [joinsText, hempty]
  after before next hjoins := by
    obtain ⟨c, rfl, hc⟩ := (Option.any_eq_true _ _).mp (Bool.and_eq_true_iff.mp hjoins).2
    refine ⟨c, rfl, ?_⟩
    rcases Bool.or_eq_true_iff.mp hc with hunit | hclass
    · exact ((isUnit_iff_unitText x [c]).mp hunit).isBreakChar c List.mem_cons_self
    · exact h.after.isBreakChar hclass

/-- A rule with bracket classes deletes by its condition, whatever is a unit. -/
theorem keepFirstGroup_joinsText (x : Extensions) (h : r.HasClassSides) :
    ∃ p, r.compile (Units.unitText x) = .ok p ∧
      ∀ text, p.keepFirstGroup text = deleteWhere (r.joinsText x) [] text := by
  obtain ⟨b, hb⟩ := exists_classTree x h.before.bracketSide
  obtain ⟨a, ha⟩ := exists_classTree x h.after.bracketSide
  obtain ⟨p, hp, hroot⟩ := compile_of_classTrees hb ha
  have hkind := hb.kind fun _ => h.before.isBreakChar
  refine ⟨p, hp, fun text => ?_⟩
  refine keepFirstGroup_eq_deleteBreaks (fun before after => ?_) hb.plain ha.plain hkind hroot text
  rw [hb.endsText_iff, ha.beginsText_iff, ← Bool.or_eq_true, ← Bool.and_eq_true]
  rfl

/-- The condition of a rule with a class before the break, which can be evaluated without reading
patterns. -/
theorem joinsText_before (x : Extensions) {fragment : String} {test : CharTest}
    (hne : fragment ≠ "") (h : IsClass fragment.toList test) :
    joinsText x ⟨some fragment, none⟩ = fun before next =>
      (before.reverse.tails.any (Units.node x false).matchesAll ||
          before.head?.any (acceptsChar false test)) &&
        next.any fun c => (Units.node x false).matchesAll [c] := by
  funext before next
  rw [joinsText, fragmentTakes_class hne h, admitsChar_none, funext (isUnit_eq x)]

end Rule

/-- The conditions of rules with bracket classes, in order. -/
def lineTests (x : Extensions) (rules : List Rule) : List BreakTest :=
  rules.map fun r => r.joinsText x

theorem onLine_lineTests {x : Extensions} {rules : List Rule}
    (h : ∀ r ∈ rules, r.HasClassSides) : ∀ d ∈ lineTests x rules, d.OnLine := by
  intro d hd
  obtain ⟨r, hr, rfl⟩ := List.mem_map.mp hd
  exact Rule.onLine_joinsText (h r hr)

/-- Rules with bracket classes delete by their conditions in turn. -/
theorem rewriteText_eq_deleteEach (x : Extensions) {rules : List Rule}
    (h : ∀ r ∈ rules, r.HasClassSides) :
    ∃ ps, (rules.mapM fun r => r.compile (Units.unitText x)) = .ok ps ∧
      ∀ text, rewriteText ps text = deleteEach (lineTests x rules) text := by
  induction rules with
  | nil => exact ⟨[], rfl, fun text => rfl⟩
  | cons r rules ih =>
    obtain ⟨hr, hrules⟩ := List.forall_mem_cons.mp h
    obtain ⟨p, hp, hdelete⟩ := Rule.keepFirstGroup_joinsText x hr
    obtain ⟨ps, hps, hrewrite⟩ := ih hrules
    refine ⟨p :: ps, ?_, fun text => ?_⟩
    · rw [List.mapM_cons, hp, hps]
      rfl
    · have hfirst : rewriteText (p :: ps) text = rewriteText ps (p.keepFirstGroup text) := rfl
      rw [hfirst, hrewrite, hdelete]
      rfl

/-- Options whose further rules have bracket classes remove breaks by the conditions of the rules in
turn, whatever the text is. -/
theorem removeBreaks_deleteEach {data : Value} {o : Options} {records : List Record}
    (ho : (Options.ofValue data).outcome = (.ok o, records))
    (h : ∀ r ∈ o.additionalRules, r.HasClassSides) (text : String) :
    (removeBreaks (.str text) data).outcome =
      (.ok (String.ofList (deleteEach (lineTests o.extensions o.rules) text.toList)), records) := by
  obtain ⟨ps, hps, hdelete⟩ := rewriteText_eq_deleteEach o.extensions (Options.hasClassSides h)
  rw [removeBreaks_outcome ho hps, rewriteString, hdelete]

end LineJoin
