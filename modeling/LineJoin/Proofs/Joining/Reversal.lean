import LineJoin.Proofs.Joining.LineTests

/-!
# Texts read backwards

Deleting breaks goes from left to right, and a match takes what stands before a break but only looks
at what follows it. Yet which breaks go depends on what stands around each of them alone, so in a text
without carriage returns the two directions differ only in which side is which. A rule with bracket
classes does to the reversed text what the rule with its sides exchanged does to the text.
-/

namespace LineJoin

open Pattern

section Reversing

variable {drops : List Char → List Char → Bool}

/-- Without carriage returns a break is one character. -/
theorem deleteBreaks_cons {c : Char} (hc : c ≠ '\r') (before rest : List Char) :
    deleteBreaks drops before (c :: rest) =
      (if isBreakChar c && drops before rest then [] else [c]) ++
        deleteBreaks drops (c :: before) rest := by
  rw [deleteBreaks]
  exact fun r h => absurd h hc

/-- What is deleted in the first part of a text may depend on what follows that part. -/
theorem deleteBreaks_append {u : List Char} (hu : '\r' ∉ u) (before v : List Char) :
    deleteBreaks drops before (u ++ v) =
      deleteBreaks (fun x y => drops x (y ++ v)) before u ++
        deleteBreaks drops (u.reverse ++ before) v := by
  induction u generalizing before with
  | nil => rfl
  | cons c u ih =>
    obtain ⟨hc, hu⟩ := not_or.mp (mt List.mem_cons.mpr hu)
    rw [List.cons_append, deleteBreaks_cons (Ne.symm hc), deleteBreaks_cons (Ne.symm hc), ih hu,
      List.reverse_cons, List.append_assoc, List.append_assoc]
    rfl

theorem reverse_deleteBreaks {text : List Char} (htext : '\r' ∉ text) (before : List Char) :
    (deleteBreaks drops before text).reverse =
      deleteBreaks (fun x y => drops (y ++ before) x) [] text.reverse := by
  induction text generalizing before with
  | nil => rfl
  | cons c rest ih =>
    obtain ⟨hc, hrest⟩ := not_or.mp (mt List.mem_cons.mpr htext)
    have hlast : deleteBreaks (fun x y => drops (y ++ before) x) (rest.reverse.reverse ++ []) [c] =
        if isBreakChar c && drops before rest then [] else [c] := by
      rw [List.reverse_reverse, List.append_nil, deleteBreaks_cons (Ne.symm hc)]
      exact List.append_nil _
    rw [deleteBreaks_cons (Ne.symm hc), List.reverse_append, ih hrest, List.reverse_cons,
      deleteBreaks_append (mt List.mem_reverse.mp hrest), hlast]
    simp only [List.append_assoc, List.singleton_append]
    congr 1
    split <;> rfl

end Reversing

namespace Rule

variable {x : Extensions}

/-- The rule with its sides exchanged. -/
def mirrored (r : Rule) : Rule := ⟨r.after, r.before⟩

theorem ClassTree.avoidsBreaksIn {side : Option String} {n : Node Nat} (h : ClassTree x side n)
    (hfeed : fragmentTakes side '\n' = false) {text : List Char} (htext : '\r' ∉ text) :
    n.AvoidsBreaksIn text := by
  intro w hw hinfix c hc
  rcases (h.texts w).mp hw with hunit | ⟨d, hd, rfl⟩
  · exact ((isUnit_iff_unitText x w).mp hunit).isBreakChar c hc
  · obtain rfl := List.mem_singleton.mp hc
    have hcarriage : c ≠ '\r' := fun h => htext (h ▸ hinfix.mem List.mem_cons_self)
    have hne : c ≠ '\n' := by
      rintro rfl
      exact Bool.false_ne_true (hfeed.symm.trans hd)
    simp [LineJoin.isBreakChar, hcarriage, hne]

/-- In a text without carriage returns a rule with bracket classes that take no line feed deletes the
breaks that it joins, whatever else the classes take. -/
theorem keepFirstGroup_joins {r : Rule} (hemoji : x.emoji = false) (hbefore : BracketSide r.before)
    (hafter : BracketSide r.after) (hfeed : fragmentTakes r.before '\n' = false) :
    ∃ p, r.compile (Units.unitText x) = .ok p ∧
      ∀ text, '\r' ∉ text → p.keepFirstGroup text = deleteWhere (r.joins x) [] text := by
  obtain ⟨b, hb⟩ := exists_classTree x hbefore
  obtain ⟨a, ha⟩ := exists_classTree x hafter
  obtain ⟨p, hp, hroot⟩ := compile_of_classTrees hb ha
  refine ⟨p, hp, fun text htext => ?_⟩
  refine keepFirstGroup_eq_deleteBreaks_of_text (fun before after => ?_) hb.plain ha.plain
    (hb.avoidsBreaksIn hfeed htext) hroot
  simp only [joins, Bool.and_eq_true, Node.EndsText, Node.BeginsText, hb.chars hemoji,
    ha.chars hemoji, exists_char_suffix_iff, exists_char_prefix_iff]

theorem reverse_deleteWhere_joins (r : Rule) {text : List Char} (htext : '\r' ∉ text) :
    (deleteWhere (r.joins x) [] text).reverse = deleteWhere (r.mirrored.joins x) [] text.reverse := by
  rw [deleteWhere, reverse_deleteBreaks htext]
  refine congrArg (deleteBreaks · [] text.reverse) (funext₂ fun before after => ?_)
  rw [List.append_nil]
  exact Bool.and_comm _ _

end Rule

/-- Options with one such rule remove the breaks that it joins. -/
theorem removeBreaks_joins {data : Value} {o : Options} {records : List Record} {r : Rule}
    (ho : (Options.ofValue data).outcome = (.ok o, records)) (hrule : o.additionalRules = [r])
    (hemoji : o.extensions.emoji = false) (hbefore : BracketSide r.before)
    (hafter : BracketSide r.after) (hfeed : fragmentTakes r.before '\n' = false) {text : String}
    (htext : '\r' ∉ text.toList) :
    (removeBreaks (.str text) data).outcome =
      (.ok (String.ofList (deleteWhere (r.joins o.extensions) [] text.toList)), records) := by
  obtain ⟨p, hp, hdelete⟩ := Rule.keepFirstGroup_joins hemoji hbefore hafter hfeed
  have hrules : o.rules = [r] := by
    rw [Options.rules, hrule]
    rfl
  rw [removeBreaks_outcome ho (compileRules_single hrules hp), rewriteString]
  exact congrArg (fun out => (Except.ok (String.ofList out), records)) (hdelete _ htext)

/-- Without emoji, the rule with its sides exchanged gives the reversed text what the rule gives the
text, read backwards: for bracket classes that take no line feed and texts without carriage
returns. -/
theorem removeBreaks_reversed {data data' : Value} {o o' : Options}
    {records records' : List Record} {r : Rule}
    (ho : (Options.ofValue data).outcome = (.ok o, records))
    (ho' : (Options.ofValue data').outcome = (.ok o', records')) (hrule : o.additionalRules = [r])
    (hrule' : o'.additionalRules = [r.mirrored]) (hsame : o'.extensions = o.extensions)
    (hemoji : o.extensions.emoji = false) (hbefore : BracketSide r.before)
    (hafter : BracketSide r.after) (hfeed : fragmentTakes r.before '\n' = false)
    (hfeed' : fragmentTakes r.after '\n' = false) {text : String} (htext : '\r' ∉ text.toList) :
    ∃ out : String, (removeBreaks (.str text) data).outcome = (.ok out, records) ∧
      (removeBreaks (.str (String.ofList text.toList.reverse)) data').outcome =
        (.ok (String.ofList out.toList.reverse), records') := by
  have htext' : '\r' ∉ (String.ofList text.toList.reverse).toList := by
    rw [String.toList_ofList]
    exact mt List.mem_reverse.mp htext
  refine ⟨_, removeBreaks_joins ho hrule hemoji hbefore hafter hfeed htext, ?_⟩
  rw [removeBreaks_joins ho' hrule' (hsame ▸ hemoji) hafter hbefore hfeed' htext', hsame,
    String.toList_ofList, String.toList_ofList, Rule.reverse_deleteWhere_joins r htext]

theorem isClass_notFeed : IsClass "[^\\n]".toList (.set false [.code 10]) :=
  ⟨['^', '\\', 'n'], (ReadState.start ['^', '\\', 'n', ']'] {}).past 4 [], String.toList_ofList,
    by cbv, rfl⟩

/-- A letter before a break and any character after it, carriage returns included. -/
theorem removeBreaks_reversed_notFeed :
    let r : Rule := ⟨some "[a-z]", some "[^\\n]"⟩
    let data : Value := .dict [(.str "additionalRegexpPairs", .list [.rule r])]
    let data' : Value := .dict [(.str "additionalRegexpPairs", .list [.rule r.mirrored])]
    let o : Options := { additionalRules := [r] }
    let o' : Options := { additionalRules := [r.mirrored] }
    ((Options.ofValue data).outcome = (.ok o, []) ∧ (Options.ofValue data').outcome = (.ok o', []) ∧
        o.additionalRules = [r] ∧ o'.additionalRules = [r.mirrored] ∧
        o'.extensions = o.extensions ∧ o.extensions.emoji = false ∧ BracketSide r.before ∧
        BracketSide r.after ∧ fragmentTakes r.before '\n' = false ∧
        fragmentTakes r.after '\n' = false ∧ '\r' ∉ "a\n1\n字\nb".toList) ∧
      (removeBreaks (.str "a\n1\n字\nb") data).outcome = (.ok "a1\n字b", []) ∧
      (removeBreaks (.str "b\n字\n1\na") data').outcome = (.ok "b字\n1a", []) := by
  intro r data data' o o'
  have ho : (Options.ofValue data).outcome = (.ok o, []) := by rfl
  have ho' : (Options.ofValue data').outcome = (.ok o', []) := by rfl
  have hbefore : BracketSide r.before := bracketSide_of_isClass isClass_letters
  have hafter : BracketSide r.after := bracketSide_of_isClass isClass_notFeed
  let letters : CharTest := .set true [.span 97 122]
  let others : CharTest := .set false [.code 10]
  have hfeed : fragmentTakes r.before '\n' = false := by
    rw [fragmentTakes_class (by decide) isClass_letters]
    decide
  have hfeed' : fragmentTakes r.after '\n' = false := by
    rw [fragmentTakes_class (by decide) isClass_notFeed]
    decide
  have hchars : "a\n1\n字\nb".toList = ['a', '\n', '1', '\n', '字', '\n', 'b'] :=
    String.toList_ofList
  have htext : '\r' ∉ "a\n1\n字\nb".toList := by
    rw [hchars]
    decide
  let unit (c : Char) : Bool := (Units.node {} false).matchesAll [c]
  have hjoins : r.joins {} = fun before next =>
      before.head?.any (fun c => unit c || acceptsChar false letters c) &&
        next.any fun c => unit c || acceptsChar false others c := by
    funext before next
    rw [Rule.joins, admitsChar_class (by decide) isClass_letters,
      admitsChar_class (by decide) isClass_notFeed]
  have hout : deleteWhere (r.joins {}) [] "a\n1\n字\nb".toList = ['a', '1', '\n', '字', 'b'] := by
    rw [hjoins, hchars]
    decide +kernel
  have hgiven := removeBreaks_joins ho rfl rfl hbefore hafter hfeed htext
  rw [hout] at hgiven
  obtain ⟨out, hsame, hreversed⟩ :=
    removeBreaks_reversed ho ho' rfl rfl rfl rfl hbefore hafter hfeed hfeed' htext
  rw [hgiven] at hsame
  obtain rfl := Except.ok.inj (Prod.mk.inj hsame).1
  rw [hchars, String.toList_ofList] at hreversed
  exact ⟨⟨ho, ho', rfl, rfl, rfl, rfl, hbefore, hafter, hfeed, hfeed', htext⟩, hgiven, hreversed⟩

end LineJoin
