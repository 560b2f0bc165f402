import LineJoin.Pattern.Search

/-!
# Places in a text

`Cursor.Takes c t d` says that `t` is the text from `c` on up to `d`, and `Cursor.Moves` that one place
is reached from the other in a direction. The text between two places is what `Cursor.between` cuts
out.
-/

namespace LineJoin.Pattern

namespace Cursor

structure Takes (c : Cursor) (t : List Char) (d : Cursor) : Prop where
  after : c.after = t ++ d.after
  before : d.before = t.reverse ++ c.before
  index : d.index = c.index + t.length

/-- The index counts what stands before the place. -/
def Placed (c : Cursor) : Prop := c.index = c.before.length

theorem placed_start (text : List Char) : (start text).Placed := rfl

/-- All of the text in which the cursor stands. -/
def whole (c : Cursor) : List Char := c.before.reverse ++ c.after

namespace Takes

variable {c d e : Cursor} {t u : List Char}

theorem refl (c : Cursor) : c.Takes [] c := ⟨rfl, rfl, rfl⟩

theorem trans (h : c.Takes t d) (k : d.Takes u e) : c.Takes (t ++ u) e where
  after := by rw [h.after, k.after, List.append_assoc]
  before := by rw [k.before, h.before, List.reverse_append, List.append_assoc]
  index := by rw [k.index, h.index, List.length_append, Nat.add_assoc]

theorem whole_eq (h : c.Takes t d) : d.whole = c.whole := by
  rw [whole, whole, h.before, h.after, List.reverse_append, List.reverse_reverse, List.append_assoc]

theorem placed (h : c.Takes t d) (hc : c.Placed) : d.Placed := by
  have hi := h.index
  rw [Placed] at hc
  rw [Placed, h.before, List.length_append, List.length_reverse]
  omega

theorem placed_back (h : c.Takes t d) (hd : d.Placed) : c.Placed := by
  have hi := h.index
  rw [Placed, h.before, List.length_append, List.length_reverse] at hd
  rw [Placed]
  omega

theorem end_unique (h : c.Takes t d) (k : c.Takes t e) : d = e := by
  cases d
  cases e
  have ha : _ = _ := List.append_cancel_left (h.after.symm.trans k.after)
  have hb := h.before.trans k.before.symm
  have hi := h.index.trans k.index.symm
  simp_all

theorem length_eq (h : c.Takes t d) : c.after.length = t.length + d.after.length := by
  rw [h.after, List.length_append]

theorem eq_take (h : c.Takes t d) : t = c.after.take (d.index - c.index) := by
  rw [h.index, Nat.add_sub_cancel_left, h.after, List.take_left]

theorem between (h : c.Takes t d) : c.between d = t := by
  have hi := h.index
  rw [Cursor.between, if_pos (by omega)]
  exact h.eq_take.symm

theorem nil_iff (h : c.Takes t d) : t = [] ↔ d.index = c.index := by
  have hi := h.index
  constructor
  · intro ht
    rw [hi, ht, List.length_nil, Nat.add_zero]
  · intro he
    exact List.length_eq_zero_iff.mp (by omega)

end Takes

/-- The place after the first part of what follows. -/
theorem exists_takes {c : Cursor} {t r : List Char} (h : c.after = t ++ r) :
    ∃ d : Cursor, c.Takes t d ∧ d.after = r :=
  ⟨⟨t.reverse ++ c.before, r, c.index + t.length⟩, ⟨h, rfl, rfl⟩, rfl⟩

/-- The place after a first character. -/
def past (c : Cursor) (x : Char) (rest : List Char) : Cursor := ⟨x :: c.before, rest, c.index + 1⟩

theorem takes_past {c : Cursor} {x : Char} {rest : List Char} (h : c.after = x :: rest) :
    c.Takes [x] (c.past x rest) := ⟨h, rfl, rfl⟩

/-- Going from one place to another in a direction, over characters of one kind. -/
def Moves (kind : Char → Prop) (backward : Bool) (c d : Cursor) : Prop :=
  ∃ t, (if backward then d.Takes t c else c.Takes t d) ∧ ∀ x ∈ t, kind x

namespace Moves

variable {kind : Char → Prop} {backward : Bool} {c d e : Cursor}

theorem refl (kind : Char → Prop) (backward : Bool) (c : Cursor) : Moves kind backward c c :=
  ⟨[], by cases backward <;> exact Takes.refl c, by simp⟩

theorem trans (h : Moves kind backward c d) (k : Moves kind backward d e) :
    Moves kind backward c e := by
  obtain ⟨t, ht, htk⟩ := h
  obtain ⟨u, hu, huk⟩ := k
  cases backward with
  | false => exact ⟨t ++ u, Takes.trans ht hu, List.forall_mem_append.mpr ⟨htk, huk⟩⟩
  | true => exact ⟨u ++ t, Takes.trans hu ht, List.forall_mem_append.mpr ⟨huk, htk⟩⟩

theorem any (h : Moves kind backward c d) {kind' : Char → Prop} (hk : ∀ x, kind' x) :
    Moves kind' backward c d := by
  obtain ⟨t, ht, -⟩ := h
  exact ⟨t, ht, fun x _ => hk x⟩

theorem placed (h : Moves kind backward c d) (hc : c.Placed) : d.Placed := by
  obtain ⟨t, ht, -⟩ := h
  cases backward with
  | false => exact Takes.placed ht hc
  | true => exact Takes.placed_back ht hc

end Moves

end Cursor

end LineJoin.Pattern
