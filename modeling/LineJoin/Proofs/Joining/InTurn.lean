import LineJoin.Proofs.Joining.LineTests

/-!
# One pass for several conditions

Conditions that are applied in turn see a text from which breaks are already gone. `lineLeft` says what
such a text has of the line before a place, so that two passes are one pass for a condition on the text
they began with, and so are all conditions of a list. Breaks go only between other characters, so what
is left shows which breaks are gone: `Leaves` is determined by the two texts.
-/

namespace LineJoin

namespace BreakTest

/-- What is left of the line before a place, nearest character first, when the breaks for which the
condition holds are gone. -/
def lineLeft (d : BreakTest) : List Char → Option Char → List Char
  | [], _ => []
  | '\n' :: '\r' :: before, next => if d before next then lineLeft d before (some '\r') else []
  | c :: before, next =>
    if isBreakChar c then if d before next then lineLeft d before (some c) else []
    else c :: lineLeft d before (some c)

/-- Breaks for which the first condition holds, and those for which the second one does when the first
ones are gone. -/
def andThen (d e : BreakTest) : BreakTest := fun before next =>
  d before next || e (d.lineLeft before none) next

/-- Breaks that are gone when all conditions have been applied in turn. -/
def inTurn (ds : List BreakTest) : BreakTest := ds.foldl andThen fun _ _ => false

section Line

variable {d : BreakTest} {before : List Char}

theorem lineLeft_char {c : Char} (hc : isBreakChar c = false) (before : List Char)
    (next : Option Char) : d.lineLeft (c :: before) next = c :: d.lineLeft before (some c) := by
  rw [lineLeft]
  · simp [hc]
  · rintro before rfl
    cases hc

/-- The line before the place after a break is empty, or goes on before the break if it is gone. -/
theorem lineLeft_break {b rest : List Char} (hb : IsBreak b rest)
    (hpair : b = ['\n'] → before.head? ≠ some '\r') (next : Option Char) :
    d.lineLeft (b.reverse ++ before) next =
      if d before next then d.lineLeft before b.head? else [] := by
  cases hb with
  | pair => rfl
  | feed =>
    change d.lineLeft ('\n' :: before) next = _
    rw [lineLeft]
    · rfl
    · rintro r - rfl
      exact hpair rfl rfl
  | carriage =>
    change d.lineLeft ('\r' :: before) next = _
    rw [lineLeft]
    · rfl
    · rintro r hr
      cases hr

theorem lineLeft_atBreak {c : Char} (hc : isBreakChar c = true) (before : List Char)
    {next : Option Char} (hnext : ∀ u, d u next = false) : d.lineLeft (c :: before) next = [] := by
  by_cases hpair : c = '\n' ∧ ∃ r, before = '\r' :: r
  · obtain ⟨rfl, r, rfl⟩ := hpair
    exact if_neg (by simp [hnext])
  · rw [lineLeft]
    · simp [hc, hnext]
    · rintro r rfl rfl
      exact hpair ⟨rfl, r, rfl⟩

variable (hd : d.Between)

include hd

/-- At a break the line before it does not depend on the break: one that stands right before it stays
as well. -/
theorem lineLeft_beforeBreak {c : Char} (hc : isBreakChar c = true) (before : List Char) :
    d.lineLeft before (some c) = d.lineLeft before none := by
  cases before with
  | nil => rfl
  | cons x before =>
    cases hx : isBreakChar x with
    | false => rw [lineLeft_char hx, lineLeft_char hx]
    | true => rw [lineLeft_atBreak hx _ (hd.beforeBreak hc), lineLeft_atBreak hx _ hd.atEnd]

theorem Between.andThen {e : BreakTest} (he : e.OnLine) : (d.andThen e).Between where
  before c before next hc := by
    rw [BreakTest.andThen, hd.before c before next hc, lineLeft_atBreak hc before hd.atEnd, he.start]
    rfl
  after before next h := by
    rcases Bool.or_eq_true_iff.mp h with h | h
    · exact hd.after before next h
    · exact he.after _ next h

theorem Between.foldl_andThen {es : List BreakTest} (hes : ∀ e ∈ es, e.OnLine) :
    (es.foldl BreakTest.andThen d).Between := by
  induction es generalizing d with
  | nil => exact hd
  | cons e es ih =>
    obtain ⟨he, hes⟩ := List.forall_mem_cons.mp hes
    exact ih (hd.andThen he) hes

end Line

theorem between_never : BreakTest.Between fun _ _ => false := ⟨fun _ _ _ _ => rfl, nofun⟩

end BreakTest

/-- No break ends between a carriage return and a line feed. -/
theorem IsBreak.not_paired {b rest : List Char} (hb : IsBreak b rest) (before : List Char)
    (h : (b.reverse ++ before).head? = some '\r') : rest.head? ≠ some '\n' := by
  cases hb with
  | pair => simp at h
  | feed => simp at h
  | carriage _ hrest => exact hrest

section Passes

open BreakTest

variable {d e : BreakTest} (hd : d.Between)

include hd

/-- From a place on, where the text left so far ends with what is left of the line before the place. -/
theorem deleteWhere_andThen_from (he : e.OnLine) {before left : List Char} (text : List Char)
    (hleft : lineBefore left = d.lineLeft before text.head?)
    (hpair : before.head? = some '\r' → text.head? ≠ some '\n') :
    deleteWhere e left (deleteWhere d before text) = deleteWhere (d.andThen e) before text := by
  induction text using token_induction generalizing before left with
  | nil => rfl
  | char c rest hc ih =>
    rw [deleteWhere_char hc, deleteWhere_char hc, deleteWhere_char hc, ih]
    · rw [lineLeft_char hc, lineBefore, List.takeWhile_cons, hc]
      exact congrArg (c :: ·) hleft
    · intro hcarriage
      cases Option.some.inj hcarriage
      cases hc
  | token b rest hb ih =>
    obtain ⟨c, r, hreverse, hc⟩ := hb.exists_reverse
    obtain ⟨x, b', rfl⟩ := List.exists_cons_of_ne_nil hb.ne_nil
    have hx : isBreakChar x = true := hb.isBreakChar x List.mem_cons_self
    have hsecond : e left rest.head? = e (d.lineLeft before none) rest.head? := by
      rw [← he.line left, hleft]
      exact congrArg (e · rest.head?) (lineLeft_beforeBreak hd hx before)
    have hfeed : x :: b' = ['\n'] → before.head? ≠ some '\r' := by
      intro hn hcarriage
      exact hpair hcarriage (by rw [hn]; rfl)
    have hnext := hb.not_paired before
    rw [deleteWhere_break hb, deleteWhere_break hb, BreakTest.andThen]
    -- the line goes on where the break is gone, and where it stays both texts begin a new one
    by_cases hdrop : d before rest.head? = true
    · simp only [hdrop, Bool.true_or, if_true, List.nil_append]
      refine ih rest (List.suffix_refl _) ?_ hnext
      rw [lineLeft_break hb hfeed, if_pos hdrop]
      exact hleft
    · have hhead : (deleteWhere d ((x :: b').reverse ++ before) rest).head? = rest.head? := by
        rw [hreverse]
        exact head?_deleteWhere hd hc _ rest
      rw [if_neg hdrop, deleteWhere_break (hb.of_head? hhead), hhead, hsecond,
        Bool.eq_false_iff.mpr hdrop, Bool.false_or, ih rest (List.suffix_refl _) ?_ hnext]
      rw [lineLeft_break hb hfeed, if_neg hdrop, hreverse]
      exact lineBefore_break hc _

theorem deleteWhere_andThen (he : e.OnLine) (text : List Char) :
    deleteWhere e [] (deleteWhere d [] text) = deleteWhere (d.andThen e) [] text :=
  deleteWhere_andThen_from hd he text rfl nofun

theorem deleteEach_deleteWhere {es : List BreakTest} (hes : ∀ e ∈ es, e.OnLine)
    (text : List Char) :
    deleteEach es (deleteWhere d [] text) = deleteWhere (es.foldl BreakTest.andThen d) [] text := by
  induction es generalizing d with
  | nil => rfl
  | cons e es ih =>
    obtain ⟨he, hes⟩ := List.forall_mem_cons.mp hes
    rw [deleteEach_cons, deleteWhere_andThen hd he, ih (hd.andThen he) hes]
    rfl

end Passes

/-- All conditions in turn delete what one pass over the text does. -/
theorem deleteEach_eq_deleteWhere {es : List BreakTest} (hes : ∀ e ∈ es, e.OnLine)
    (text : List Char) : deleteEach es text = deleteWhere (BreakTest.inTurn es) [] text := by
  have h := deleteEach_deleteWhere BreakTest.between_never hes text
  rwa [deleteWhere_never] at h

theorem BreakTest.between_inTurn {es : List BreakTest} (hes : ∀ e ∈ es, e.OnLine) :
    (inTurn es).Between := between_never.foldl_andThen hes

section Unique

/-- A text begins with one break only. -/
theorem IsBreak.unique {b c rest others : List Char} (hb : IsBreak b rest) (hc : IsBreak c others)
    (h : b ++ rest = c ++ others) : b = c ∧ rest = others := by
  cases hb with
  | pair =>
    cases hc with
    | pair => simpa using h
    | feed => cases (List.cons.inj h).1
    | carriage _ hn =>
      have hrest : '\n' :: rest = others := (List.cons.inj h).2
      exact absurd (hrest ▸ rfl) hn
  | feed =>
    cases hc with
    | feed => simpa using h
    | pair => cases (List.cons.inj h).1
    | carriage => cases (List.cons.inj h).1
  | carriage _ hn =>
    cases hc with
    | carriage => simpa using h
    | feed => cases (List.cons.inj h).1
    | pair =>
      have hrest : rest = '\n' :: others := (List.cons.inj h).2
      exact absurd (hrest ▸ rfl) hn

variable {d e : BreakTest} (hd : d.Between)

include hd

/-- A text with a break in front does not come from one where that break is gone. -/
theorem append_break_ne {k others left : List Char} (hk : IsBreak k others) (u : List Char)
    (hdrop : d u others.head? = true) : k ++ left ≠ deleteWhere d (k.reverse ++ u) others := by
  intro h
  obtain ⟨x, r, hreverse, hx⟩ := hk.exists_reverse
  obtain ⟨c, hc, hplain⟩ := hd.after _ _ hdrop
  obtain ⟨y, k', rfl⟩ := List.exists_cons_of_ne_nil hk.ne_nil
  have hhead : some y = (deleteWhere d (x :: (r ++ u)) others).head? := by
    rw [← List.cons_append, ← hreverse, ← h]
    rfl
  rw [head?_deleteWhere hd hx, hc] at hhead
  obtain rfl := Option.some.inj hhead
  exact Bool.false_ne_true (hplain.symm.trans (hk.isBreakChar y List.mem_cons_self))

variable (he : e.Between)

include he

theorem eq_of_deleteWhere_break {k others u : List Char} (hk : IsBreak k others)
    (h : deleteWhere d u (k ++ others) = deleteWhere e u (k ++ others)) :
    d u others.head? = e u others.head? ∧
      deleteWhere d (k.reverse ++ u) others = deleteWhere e (k.reverse ++ u) others := by
  rw [deleteWhere_break hk, deleteWhere_break hk] at h
  by_cases hdrop : d u others.head? = true
  · by_cases hdrop' : e u others.head? = true
    · rw [if_pos hdrop, if_pos hdrop'] at h
      exact ⟨hdrop.trans hdrop'.symm, h⟩
    · rw [if_pos hdrop, if_neg hdrop'] at h
      exact absurd h.symm (append_break_ne hd hk u hdrop)
  · by_cases hdrop' : e u others.head? = true
    · rw [if_neg hdrop, if_pos hdrop'] at h
      exact absurd h (append_break_ne he hk u hdrop')
    · rw [if_neg hdrop, if_neg hdrop'] at h
      exact ⟨(Bool.eq_false_iff.mpr hdrop).trans (Bool.eq_false_iff.mpr hdrop').symm,
        List.append_cancel_left h⟩

/-- What is left tells which breaks are gone. -/
theorem eq_of_deleteWhere_eq {u text w b rest : List Char}
    (h : deleteWhere d u text = deleteWhere e u text) (hsplit : text = w ++ (b ++ rest))
    (hb : IsBreak b rest) : d (w.reverse ++ u) rest.head? = e (w.reverse ++ u) rest.head? := by
  induction text using token_induction generalizing u w with
  | nil =>
    have hnil := (List.append_eq_nil_iff.mp hsplit.symm).2
    exact absurd (List.append_eq_nil_iff.mp hnil).1 hb.ne_nil
  | char c others hc ih =>
    rw [deleteWhere_char hc, deleteWhere_char hc] at h
    cases w with
    | nil =>
      obtain ⟨x, b', rfl⟩ := List.exists_cons_of_ne_nil hb.ne_nil
      obtain ⟨rfl, -⟩ := List.cons.inj hsplit
      rw [hb.isBreakChar c List.mem_cons_self] at hc
      cases hc
    | cons x w =>
      obtain ⟨rfl, hrest⟩ := List.cons.inj hsplit
      rw [List.reverse_cons, List.append_assoc]
      exact ih (List.cons.inj h).2 hrest
  | token k others hk ih =>
    obtain ⟨hfirst, hothers⟩ := eq_of_deleteWhere_break hd he hk h
    rcases List.append_eq_append_iff.mp hsplit with ⟨v, rfl, hrest⟩ | ⟨v, rfl, hrest⟩
    · rw [List.reverse_append, List.append_assoc]
      exact ih others (List.suffix_refl _) hothers hrest
    · cases w using List.reverseRecOn with
      | nil =>
        obtain ⟨rfl, rfl⟩ := hb.unique hk hrest
        exact hfirst
      | append_singleton w x =>
        -- the place is behind the first character of a pair, where no break is deleted
        have hx : isBreakChar x = true := hk.isBreakChar x (by simp)
        rw [List.reverse_append]
        exact (hd.before x _ _ hx).trans (he.before x _ _ hx).symm

end Unique

/-- Deleting the breaks for which the condition holds leaves the second text. They all stand between
other characters, and no others that do can be deleted instead. -/
structure BreakTest.Leaves (d : BreakTest) (text out : List Char) : Prop where
  between : d.Between
  deleteWhere_eq : deleteWhere d [] text = out
  only : ∀ e : BreakTest, e.Between → deleteWhere e [] text = out →
    ∀ before b rest, text = before.reverse ++ (b ++ rest) → IsBreak b rest →
      e before rest.head? = d before rest.head?

theorem BreakTest.Between.leaves {d : BreakTest} (hd : d.Between) (text : List Char) :
    d.Leaves text (deleteWhere d [] text) where
  between := hd
  deleteWhere_eq := rfl
  only e he heq before b rest hsplit hb := by
    have h := eq_of_deleteWhere_eq he hd heq hsplit hb
    rwa [List.reverse_reverse, List.append_nil] at h

end LineJoin
