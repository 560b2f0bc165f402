import LineJoin.Proofs.Joining.LineTests

/-!
# Blank lines between paragraphs

Two line breaks in a row are both next to another break, so they stay, and what stands before them
has no influence on what is deleted after them. A text that is cut at a blank line can be rewritten
part by part. A break at the cut may go on in the part next to it; `breakCount` only grows by what
comes before, which is all that the cut needs.
-/

namespace LineJoin

/-- The number of line breaks of a text. -/
def breakCount : List Char → Nat
  | [] => 0
  | '\r' :: '\n' :: rest => breakCount rest + 1
  | c :: rest => breakCount rest + if isBreakChar c then 1 else 0

theorem breakCount_break {b rest : List Char} (hb : IsBreak b rest) :
    breakCount (b ++ rest) = breakCount rest + 1 := by
  cases hb with
  | pair => rfl
  | feed => rfl
  | carriage _ h =>
    have hne : ∀ r, rest ≠ '\n' :: r := fun r hr => h (hr ▸ rfl)
    rw [List.singleton_append, breakCount]
    · rfl
    · exact fun r _ hr => hne r hr

theorem breakCount_le_cons (c : Char) (text : List Char) :
    breakCount text ≤ breakCount (c :: text) := by
  by_cases hc : isBreakChar c = true
  · obtain ⟨b, rest, hsplit, hb, hb'⟩ := exists_isBreak hc text
    rw [hsplit, breakCount_break hb]
    rcases hb' with rfl | ⟨rfl, rfl⟩
    · obtain rfl := (List.cons.inj hsplit).2
      exact Nat.le_succ _
    · rw [(List.cons.inj hsplit).2]
      exact Nat.le_of_eq (breakCount_break (.feed rest))
  · rw [breakCount]
    · exact Nat.le_add_right _ _
    · rintro r rfl
      exact absurd rfl hc

theorem breakCount_le_append (before text : List Char) :
    breakCount text ≤ breakCount (before ++ text) := by
  induction before with
  | nil => exact Nat.le_refl _
  | cons c before ih => exact ih.trans (breakCount_le_cons c _)

section Deleting

variable {d : BreakTest} (hd : d.OnLine) {s : List Char} (hs : ∀ c ∈ s, isBreakChar c = true)
  (htwo : 2 ≤ breakCount s)

include hd hs htwo

/-- A blank line stays, and deleting starts anew after it. -/
theorem deleteWhere_blank (before after : List Char) :
    deleteWhere d before (s ++ after) = s ++ deleteWhere d [] after := by
  obtain ⟨c, t, rfl⟩ : ∃ c t, s = c :: t := by
    cases s with
    | nil => cases htwo
    | cons c t => exact ⟨c, t, rfl⟩
  obtain ⟨b, rest, hsplit, hb, -⟩ := exists_isBreak (hs c List.mem_cons_self) t
  rw [hsplit, breakCount_break hb] at htwo
  rw [hsplit] at hs ⊢
  obtain ⟨-, hrest⟩ := List.forall_mem_append.mp hs
  obtain ⟨x, r, rfl⟩ : ∃ x r, rest = x :: r := by
    cases rest with
    | nil => exact absurd htwo (by simp [breakCount])
    | cons x r => exact ⟨x, r, rfl⟩
  have hb' : IsBreak b (x :: r ++ after) := hb.of_head? rfl
  obtain ⟨y, w, hreverse, hy⟩ := hb.exists_reverse
  have hkept : d before (x :: r ++ after).head? = false :=
    hd.beforeBreak (hrest x List.mem_cons_self) before
  rw [List.append_assoc, deleteWhere_break hb', hkept, hreverse, List.cons_append,
    deleteWhere_atBreak hd hy, deleteWhere_breaks hd hrest, List.append_assoc]
  rfl

theorem deleteWhere_append_blank (before text after : List Char) :
    deleteWhere d before (text ++ (s ++ after)) =
      deleteWhere d before text ++ (s ++ deleteWhere d [] after) := by
  induction text using token_induction generalizing before with
  | nil => exact deleteWhere_blank hd hs htwo before after
  | char c rest hc ih =>
    rw [List.cons_append, deleteWhere_char hc, deleteWhere_char hc, ih, List.cons_append]
  | token b rest hb ih =>
    cases rest with
    | nil =>
      -- the break at the end may go on in the blank line, and makes a longer one with it
      have hall : ∀ c ∈ b ++ s, isBreakChar c = true :=
        List.forall_mem_append.mpr ⟨hb.isBreakChar, hs⟩
      have hblank := deleteWhere_blank hd hall (htwo.trans (breakCount_le_append b s)) before after
      have hend : deleteWhere d before (b ++ []) = b := by
        rw [deleteWhere_break hb, List.head?_nil, hd.atEnd]
        exact List.append_nil b
      rw [hend, List.append_nil, ← List.append_assoc, hblank, List.append_assoc]
    | cons x r =>
      have hb' : IsBreak b (x :: r ++ (s ++ after)) := hb.of_head? rfl
      rw [List.append_assoc, deleteWhere_break hb', deleteWhere_break hb,
        ih _ (List.suffix_refl _), List.append_assoc]
      rfl

end Deleting

theorem deleteEach_append_blank {ds : List BreakTest} (hds : ∀ d ∈ ds, d.OnLine) {s : List Char}
    (hs : ∀ c ∈ s, isBreakChar c = true) (htwo : 2 ≤ breakCount s) (text after : List Char) :
    deleteEach ds (text ++ (s ++ after)) = deleteEach ds text ++ (s ++ deleteEach ds after) := by
  induction ds generalizing text after with
  | nil => rfl
  | cons d ds ih =>
    obtain ⟨hd, hds⟩ := List.forall_mem_cons.mp hds
    rw [deleteEach_cons, deleteEach_cons, deleteEach_cons, deleteWhere_append_blank hd hs htwo,
      ih hds]

/-- With rules that have bracket classes the text before a blank line and the text after it are
rewritten each by itself, and the blank line stays. -/
theorem removeBreaks_blank {data : Value} {o : Options} {records : List Record}
    (ho : (Options.ofValue data).outcome = (.ok o, records))
    (h : ∀ r ∈ o.additionalRules, r.HasClassSides) {s : String}
    (hs : ∀ c ∈ s.toList, isBreakChar c = true) (htwo : 2 ≤ breakCount s.toList)
    (a b : String) :
    ∃ out out', (removeBreaks (.str a) data).outcome = (.ok out, records) ∧
      (removeBreaks (.str b) data).outcome = (.ok out', records) ∧
      (removeBreaks (.str (a ++ s ++ b)) data).outcome = (.ok (out ++ s ++ out'), records) := by
  refine ⟨_, _, removeBreaks_deleteEach ho h a, removeBreaks_deleteEach ho h b, ?_⟩
  have htests := onLine_lineTests (x := o.extensions) (Options.hasClassSides h)
  rw [removeBreaks_deleteEach ho h, String.toList_append, String.toList_append, List.append_assoc,
    deleteEach_append_blank htests hs htwo, String.ofList_append, String.ofList_append,
    String.ofList_toList, String.append_assoc]

/-- The first text ends with a carriage return, to which the blank line adds a line feed, and the
second one begins with a line feed. -/
theorem removeBreaks_blank_seams :
    let letter : Rule := ⟨some "[a-z]", none⟩
    let data : Value := .dict [(.str "includeEmoji", .bool true),
      (.str "additionalRegexpPairs", .list [.rule letter])]
    let o : Options := { extensions := { emoji := true }, additionalRules := [letter] }
    (Options.ofValue data).outcome = (.ok o, []) ∧ (∀ r ∈ o.additionalRules, r.HasClassSides) ∧
      (∀ c ∈ "\n\r".toList, isBreakChar c = true) ∧ 2 ≤ breakCount "\n\r".toList ∧
      (removeBreaks (.str "a\n字\r") data).outcome = (.ok "a字\r", []) ∧
      (removeBreaks (.str "\n字\n😀") data).outcome = (.ok "\n字😀", []) ∧
      (removeBreaks (.str ("a\n字\r" ++ "\n\r" ++ "\n字\n😀")) data).outcome =
        (.ok ("a字\r" ++ "\n\r" ++ "\n字😀"), []) := by
  intro letter data o
  have ho : (Options.ofValue data).outcome = (.ok o, []) := by rfl
  have hrules : ∀ r ∈ o.additionalRules, r.HasClassSides :=
    List.forall_mem_singleton.mpr Rule.hasClassSides_letters
  have hblank : "\n\r".toList = ['\n', '\r'] := String.toList_ofList
  have hbreaks : ∀ c ∈ "\n\r".toList, isBreakChar c = true := by
    rw [hblank]
    simp [isBreakChar]
  have htwo : 2 ≤ breakCount "\n\r".toList := by
    rw [hblank]
    rfl
  have htests : lineTests o.extensions o.rules = [letter.joinsText o.extensions] := rfl
  have hevaluate := Rule.joinsText_before o.extensions (by decide) Pattern.isClass_letters
  have hfirst : deleteEach (lineTests o.extensions o.rules) ['a', '\n', '字', '\r'] =
      ['a', '字', '\r'] := by
    rw [htests, hevaluate]
    decide +kernel
  have hsecond : deleteEach (lineTests o.extensions o.rules) ['\n', '字', '\n', '😀'] =
      ['\n', '字', '😀'] := by
    rw [htests, hevaluate]
    decide +kernel
  have hgiven := removeBreaks_deleteEach ho hrules "a\n字\r"
  have hgiven' := removeBreaks_deleteEach ho hrules "\n字\n😀"
  rw [show "a\n字\r".toList = _ from String.toList_ofList, hfirst] at hgiven
  rw [show "\n字\n😀".toList = _ from String.toList_ofList, hsecond] at hgiven'
  obtain ⟨out, out', hout, hout', hjoined⟩ :=
    removeBreaks_blank ho hrules hbreaks htwo "a\n字\r" "\n字\n😀"
  rw [hgiven] at hout
  rw [hgiven'] at hout'
  obtain rfl := Except.ok.inj (Prod.mk.inj hout).1
  obtain rfl := Except.ok.inj (Prod.mk.inj hout').1
  exact ⟨ho, hrules, hbreaks, htwo, hgiven, hgiven', hjoined⟩

end LineJoin
