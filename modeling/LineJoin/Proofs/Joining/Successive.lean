import LineJoin.Proofs.Joining.Deletion

/-!
# Deleting breaks one condition after the other

Rules are applied in turn, each to the text that the one before has left. If breaks are deleted only
between characters, and a deleted break makes no difference to what a later condition sees, then
deleting for one condition and then for another is deleting for either at once. The invariant is
that the text left so far and the text itself look the same to the second condition, from the next
character on.
-/

namespace LineJoin

/-- A condition on the text before a break, nearest character first, and the character after it. -/
abbrev BreakTest := List Char → Option Char → Bool

def deleteWhere (d : BreakTest) (before text : List Char) : List Char :=
  deleteBreaks (fun before after => d before after.head?) before text

namespace BreakTest

/-- A break next to another break, or at the start or the end of the text, is kept. -/
structure Between (d : BreakTest) : Prop where
  before : ∀ c r next, isBreakChar c = true → d (c :: r) next = false
  after : ∀ r next, d r next = true → ∃ c, next = some c ∧ isBreakChar c = false

section Next

variable {d : BreakTest} (hd : d.Between)

include hd

theorem Between.beforeBreak {c : Char} (hc : isBreakChar c = true) (before : List Char) :
    d before (some c) = false := by
  rw [Bool.eq_false_iff]
  intro h
  obtain ⟨_, hnext, hplain⟩ := hd.after before (some c) h
  obtain rfl := Option.some.inj hnext
  exact Bool.false_ne_true (hplain.symm.trans hc)

theorem Between.atEnd (before : List Char) : d before none = false := by
  rw [Bool.eq_false_iff]
  intro h
  obtain ⟨c, hnext, -⟩ := hd.after before none h
  cases hnext

end Next

/-- Where a break between `u` and `c` is deleted for the first condition, the second one holds of a
text after it whether the break is there or not. -/
def Unseen (d₁ d₂ : BreakTest) : Prop :=
  ∀ u c b v next, d₁ u (some c) = true → (∀ x ∈ b, isBreakChar x = true) →
    d₂ (v ++ c :: (b ++ u)) next = d₂ (v ++ c :: u) next

end BreakTest

section Tokens

variable {d : BreakTest} {before : List Char}

theorem deleteWhere_break {b rest : List Char} (hb : IsBreak b rest) :
    deleteWhere d before (b ++ rest) =
      (if d before rest.head? then [] else b) ++ deleteWhere d (b.reverse ++ before) rest :=
  deleteBreaks_break hb

theorem deleteWhere_char {c : Char} (hc : isBreakChar c = false) (rest : List Char) :
    deleteWhere d before (c :: rest) = c :: deleteWhere d (c :: before) rest :=
  deleteBreaks_char hc rest

/-- Only the next character tells whether a break is one of two characters. -/
theorem IsBreak.of_head? {b rest out : List Char} (h : IsBreak b rest)
    (hout : out.head? = rest.head?) : IsBreak b out := by
  cases h with
  | pair => exact .pair out
  | feed => exact .feed out
  | carriage _ h => exact .carriage out (hout ▸ h)

theorem IsBreak.exists_reverse {b rest : List Char} (h : IsBreak b rest) :
    ∃ c r, b.reverse = c :: r ∧ LineJoin.isBreakChar c = true := by
  obtain ⟨c, r, hcr⟩ := List.exists_cons_of_ne_nil (List.reverse_ne_nil_iff.mpr h.ne_nil)
  exact ⟨c, r, hcr, h.isBreakChar c (List.mem_reverse.mp (hcr ▸ List.mem_cons_self))⟩

/-- After a break the next character stays. -/
theorem head?_deleteWhere (hd : d.Between) {c : Char} (hc : isBreakChar c = true)
    (r text : List Char) : (deleteWhere d (c :: r) text).head? = text.head? := by
  cases text with
  | nil => rfl
  | cons x rest =>
    by_cases hx : isBreakChar x = true
    · obtain ⟨b, rest', hsplit, hb, -⟩ := exists_isBreak hx rest
      obtain ⟨y, b, rfl⟩ := List.exists_cons_of_ne_nil hb.ne_nil
      rw [hsplit, deleteWhere_break hb, hd.before c r _ hc]
      rfl
    · rw [deleteWhere_char (Bool.eq_false_iff.mpr hx)]
      rfl

/-- Induction token by token. After a break the statement holds of all that is still to come. -/
theorem token_induction {P : List Char → Prop} (nil : P [])
    (char : ∀ c rest, isBreakChar c = false → P rest → P (c :: rest))
    (token : ∀ b rest, IsBreak b rest → (∀ t, t <:+ rest → P t) → P (b ++ rest))
    (text : List Char) : P text := by
  induction hn : text.length using Nat.strongRecOn generalizing text with
  | ind n ih =>
    cases text with
    | nil => exact nil
    | cons c rest =>
      by_cases hc : isBreakChar c = true
      · obtain ⟨b, rest', hsplit, hb, -⟩ := exists_isBreak hc rest
        have hpos := List.length_pos_iff.mpr hb.ne_nil
        rw [hsplit, List.length_append] at hn
        rw [hsplit]
        refine token b rest' hb fun t ht => ih t.length ?_ t rfl
        have hle := ht.length_le
        omega
      · refine char c rest (Bool.eq_false_iff.mpr hc) (ih rest.length ?_ rest rfl)
        exact hn ▸ Nat.lt_succ_self _

theorem trimmed_deleteWhere (d : BreakTest) (before text : List Char) :
    Trimmed text (deleteWhere d before text) := by
  induction text using token_induction generalizing before with
  | nil => exact .nil
  | char c rest hc ih =>
    rw [deleteWhere_char hc]
    exact .keep c (ih _)
  | token b rest hb ih =>
    have hrest := ih rest (List.suffix_refl _) (b.reverse ++ before)
    rw [deleteWhere_break hb]
    split
    · exact .drop hb hrest
    · exact .keepAll b hrest

end Tokens

section Twice

variable {d₁ d₂ : BreakTest} (h₁ : d₁.Between) (hunseen : d₁.Unseen d₂)

include h₁ hunseen

/-- Two texts before a place look the same to the second condition, whatever follows them. -/
theorem deleteWhere_deleteWhere_from {before left : List Char} (text : List Char)
    (hsame : ∀ v next, d₂ (v ++ left) next = d₂ (v ++ before) next) :
    deleteWhere d₂ left (deleteWhere d₁ before text) =
      deleteWhere (fun r next => d₁ r next || d₂ r next) before text := by
  have hpush {before left u : List Char}
      (h : ∀ v next, d₂ (v ++ left) next = d₂ (v ++ before) next) (v : List Char)
      (next : Option Char) : d₂ (v ++ (u ++ left)) next = d₂ (v ++ (u ++ before)) next := by
    rw [← List.append_assoc, ← List.append_assoc]
    exact h (v ++ u) next
  induction text using token_induction generalizing before left with
  | nil => rfl
  | char c rest hc ih =>
    rw [deleteWhere_char hc, deleteWhere_char hc, deleteWhere_char hc]
    exact congrArg (c :: ·) (ih (hpush (u := [c]) hsame))
  | token b rest hb ih =>
    have hbreak : ∀ x ∈ b.reverse, isBreakChar x = true := fun x hx =>
      hb.isBreakChar x (List.mem_reverse.mp hx)
    rw [deleteWhere_break hb, deleteWhere_break hb]
    by_cases hdrop : d₁ before rest.head? = true
    · -- the break goes, and the character after it is the next one of both texts
      obtain ⟨c, hc, hplain⟩ := h₁.after _ _ hdrop
      obtain ⟨r, rfl⟩ := List.head?_eq_some_iff.mp hc
      have hdrop' : d₁ before (some c) = true := hdrop
      have hsame' (v : List Char) (next : Option Char) :
          d₂ (v ++ c :: left) next = d₂ (v ++ c :: (b.reverse ++ before)) next :=
        (hpush (u := [c]) hsame v next).trans
          (hunseen before c b.reverse v next hdrop' hbreak).symm
      simp only [hdrop, Bool.true_or, if_true, List.nil_append]
      rw [deleteWhere_char hplain, deleteWhere_char hplain, deleteWhere_char hplain,
        ih r (List.suffix_cons c r) hsame']
    · obtain ⟨c, r, hreverse, hc⟩ := hb.exists_reverse
      have hhead : (deleteWhere d₁ (b.reverse ++ before) rest).head? = rest.head? := by
        rw [hreverse]
        exact head?_deleteWhere h₁ hc _ rest
      have hsecond : d₂ left rest.head? = d₂ before rest.head? := hsame [] rest.head?
      rw [if_neg hdrop, deleteWhere_break (hb.of_head? hhead), hhead, hsecond,
        Bool.eq_false_iff.mpr hdrop, Bool.false_or,
        ih rest (List.suffix_refl _) (hpush (u := b.reverse) hsame)]

/-- Deleting for one condition and then for another is deleting for either. -/
theorem deleteWhere_deleteWhere (text : List Char) :
    deleteWhere d₂ [] (deleteWhere d₁ [] text) =
      deleteWhere (fun r next => d₁ r next || d₂ r next) [] text :=
  deleteWhere_deleteWhere_from h₁ hunseen text fun _ _ => rfl

end Twice

/-- Nothing is left to delete for a condition that does not see what it has deleted. -/
theorem deleteWhere_idempotent {d : BreakTest} (hd : d.Between) (hunseen : d.Unseen d)
    (text : List Char) : deleteWhere d [] (deleteWhere d [] text) = deleteWhere d [] text := by
  rw [deleteWhere_deleteWhere hd hunseen]
  simp only [Bool.or_self]

/-- A condition that holds wherever another one does deletes from what that one has left. -/
theorem deleteWhere_of_imp {d₁ d₂ : BreakTest} (h₁ : d₁.Between) (hunseen : d₁.Unseen d₂)
    (himp : ∀ r next, d₁ r next = true → d₂ r next = true) (text : List Char) :
    deleteWhere d₂ [] (deleteWhere d₁ [] text) = deleteWhere d₂ [] text := by
  have hor : (fun r next => d₁ r next || d₂ r next) = d₂ := by
    funext r next
    cases h : d₁ r next with
    | true => exact (himp r next h).symm
    | false => rfl
  rw [deleteWhere_deleteWhere h₁ hunseen, hor]

end LineJoin
