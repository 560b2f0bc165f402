import LineJoin.Proofs.Joining.LineTests

/-!
# Styles of line breaks

`lineFeeds` writes every line break as a line feed. Removing breaks by conditions on the line before
a break commutes with it: a condition sees neither how the break is written nor how the one before
the line is, and where a break is deleted the character after it is none, so that no carriage return
comes to stand before a line feed.
-/

namespace LineJoin

/-- Writes each carriage return, with a line feed after it or without, as one line feed. -/
def lineFeeds : List Char → List Char
  | [] => []
  | '\r' :: '\n' :: rest => '\n' :: lineFeeds rest
  | '\r' :: rest => '\n' :: lineFeeds rest
  | c :: rest => c :: lineFeeds rest

theorem lineFeeds_break {b rest : List Char} (hb : IsBreak b rest) :
    lineFeeds (b ++ rest) = '\n' :: lineFeeds rest := by
  cases hb with
  | pair => rfl
  | feed => rfl
  | carriage _ h =>
    have hne : ∀ r, rest ≠ '\n' :: r := fun r hr => h (hr ▸ rfl)
    rw [List.singleton_append, lineFeeds]
    exact hne

theorem lineFeeds_char {c : Char} (hc : isBreakChar c = false) (rest : List Char) :
    lineFeeds (c :: rest) = c :: lineFeeds rest := by
  have hr : c ≠ '\r' := by
    rintro rfl
    cases hc
  rw [lineFeeds]
  · intro r h
    exact absurd h hr
  · exact hr

section Deleting

variable {d : BreakTest} (hd : d.OnLine)

include hd

/-- What comes after a break is seen in the same way however it is written. -/
theorem BreakTest.OnLine.head?_lineFeeds (before text : List Char) :
    d before (lineFeeds text).head? = d before text.head? := by
  cases text with
  | nil => rfl
  | cons c text =>
    cases hc : isBreakChar c with
    | false => rw [lineFeeds_char hc, List.head?_cons, List.head?_cons]
    | true =>
      obtain ⟨b, rest, hsplit, hb, -⟩ := exists_isBreak hc text
      rw [hsplit, lineFeeds_break hb, ← hsplit, List.head?_cons, List.head?_cons,
        hd.beforeBreak rfl, hd.beforeBreak hc]

theorem lineFeeds_deleteWhere (before text : List Char) :
    lineFeeds (deleteWhere d before text) = deleteWhere d before (lineFeeds text) := by
  induction text using token_induction generalizing before with
  | nil => rfl
  | char c rest hc ih =>
    rw [deleteWhere_char hc, lineFeeds_char hc, lineFeeds_char hc, deleteWhere_char hc, ih]
  | token b rest hb ih =>
    obtain ⟨c, r, hreverse, hc⟩ := hb.exists_reverse
    have hrest : lineFeeds (deleteWhere d (b.reverse ++ before) rest) =
        deleteWhere d ('\n' :: before) (lineFeeds rest) := by
      rw [ih rest (List.suffix_refl _), hreverse, List.cons_append, deleteWhere_atBreak hd hc,
        deleteWhere_atBreak hd rfl]
    have hfeed : deleteWhere d before ('\n' :: lineFeeds rest) =
        (if d before rest.head? then [] else ['\n']) ++
          deleteWhere d ('\n' :: before) (lineFeeds rest) := by
      rw [← hd.head?_lineFeeds]
      exact deleteWhere_break (.feed (lineFeeds rest))
    rw [deleteWhere_break hb, lineFeeds_break hb, hfeed]
    split
    · exact hrest
    · -- the next character stays, so the break that is kept is still one of the same kind
      have hhead : (deleteWhere d (b.reverse ++ before) rest).head? = rest.head? := by
        rw [hreverse]
        exact head?_deleteWhere hd.between hc _ rest
      rw [lineFeeds_break (hb.of_head? hhead), hrest]
      rfl

end Deleting

theorem lineFeeds_deleteEach {ds : List BreakTest} (hds : ∀ d ∈ ds, d.OnLine) (text : List Char) :
    lineFeeds (deleteEach ds text) = deleteEach ds (lineFeeds text) := by
  induction ds generalizing text with
  | nil => rfl
  | cons d ds ih =>
    obtain ⟨hd, hds⟩ := List.forall_mem_cons.mp hds
    rw [deleteEach_cons, deleteEach_cons, ih hds, lineFeeds_deleteWhere hd]

/-- With rules that have bracket classes it makes no difference whether breaks are first removed and
then written as line feeds or the other way round. -/
theorem removeBreaks_lineFeeds {data : Value} {o : Options} {records : List Record}
    (ho : (Options.ofValue data).outcome = (.ok o, records))
    (h : ∀ r ∈ o.additionalRules, r.HasClassSides) (text : String) :
    ∃ out, (removeBreaks (.str text) data).outcome = (.ok out, records) ∧
      (removeBreaks (.str (String.ofList (lineFeeds text.toList))) data).outcome =
        (.ok (String.ofList (lineFeeds out.toList)), records) := by
  refine ⟨_, removeBreaks_deleteEach ho h text, ?_⟩
  rw [removeBreaks_deleteEach ho h, String.toList_ofList, String.toList_ofList,
    lineFeeds_deleteEach (onLine_lineTests (Options.hasClassSides h))]

/-- Breaks in three styles next to a letter, an emoji and a blank line. -/
theorem removeBreaks_lineFeeds_mixed :
    let letter : Rule := ⟨some "[a-z]", none⟩
    let data : Value := .dict [(.str "includeEmoji", .bool true),
      (.str "additionalRegexpPairs", .list [.rule letter])]
    let o : Options := { extensions := { emoji := true }, additionalRules := [letter] }
    (Options.ofValue data).outcome = (.ok o, []) ∧ (∀ r ∈ o.additionalRules, r.HasClassSides) ∧
      (removeBreaks (.str "a\r\n字\r😀\n\r\n字") data).outcome = (.ok "a字😀\n\r\n字", []) ∧
      (removeBreaks (.str "a\n字\n😀\n\n字") data).outcome = (.ok "a字😀\n\n字", []) := by
  intro letter data o
  have ho : (Options.ofValue data).outcome = (.ok o, []) := by rfl
  have hrules : ∀ r ∈ o.additionalRules, r.HasClassSides :=
    List.forall_mem_singleton.mpr Rule.hasClassSides_letters
  have hout : deleteEach (lineTests o.extensions o.rules)
      ['a', '\r', '\n', '字', '\r', '😀', '\n', '\r', '\n', '字'] =
        ['a', '字', '😀', '\n', '\r', '\n', '字'] := by
    change deleteEach [letter.joinsText o.extensions] _ = _
    rw [Rule.joinsText_before o.extensions (by decide) Pattern.isClass_letters]
    decide +kernel
  have hgiven := removeBreaks_deleteEach ho hrules "a\r\n字\r😀\n\r\n字"
  rw [show "a\r\n字\r😀\n\r\n字".toList = _ from String.toList_ofList, hout] at hgiven
  obtain ⟨out, hsame, hfeeds⟩ := removeBreaks_lineFeeds ho hrules "a\r\n字\r😀\n\r\n字"
  rw [hgiven] at hsame
  obtain rfl := Except.ok.inj (Prod.mk.inj hsame).1
  rw [String.toList_ofList, String.toList_ofList] at hfeeds
  exact ⟨ho, hrules, hgiven, hfeeds⟩

end LineJoin
