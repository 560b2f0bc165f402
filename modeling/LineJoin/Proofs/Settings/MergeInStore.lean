import LineJoin.Proofs.Settings.Merging

/-!
# Merging in a store

Mappings that can be changed are objects of their own, and one mapping can be the value of a key at
many places. Here a store has the mappings by number, and merging copies the lower one and writes to
the copy, key by key. What comes out reads as the merged mapping, and all mappings that were there
before stay as they are.
-/

namespace LineJoin.Settings

open Entries Value

/-- What a mapping has under a key: another mapping of the store, or any other value. -/
inductive Slot where
  | value (v : Value)
  | mapping (number : Nat)

abbrev Cell := List (Value × Slot)

abbrev Store := List Cell

namespace Cell

def get? (cell : Cell) (key : Value) : Option Slot :=
  (cell.find? fun e => e.1.sameKey key).map (·.2)

def put (key : Value) (slot : Slot) : Cell → Cell
  | [] => [(key, slot)]
  | e :: rest => if e.1.sameKey key then (e.1, slot) :: rest else e :: put key slot rest

end Cell

/-- How two mappings of a store are merged, by their numbers. -/
abbrev Merger := Nat → Nat → Store → Option (Nat × Store)

/-- The slot that comes out of one that is laid over an old one. -/
def laySlot (merger : Merger) (old : Option Slot) (slot : Slot) (s : Store) :
    Option (Slot × Store) :=
  match old, slot with
  | some (.mapping base), .mapping override =>
    (merger base override s).map fun p => (.mapping p.1, p.2)
  | _, _ => some (slot, s)

/-- Writes the slots of a mapping over those of the one with the given number, key by key. -/
def layCell (merger : Merger) (number : Nat) : Cell → Store → Option Store
  | [], s => some s
  | (key, slot) :: rest, s => do
    let below ← s[number]?
    let (slot, s) ← laySlot merger (below.get? key) slot s
    let below ← s[number]?
    layCell merger number rest (s.set number (below.put key slot))

/-- Merges two mappings of a store into a new one. The fuel bounds the depth. -/
def mergeAt : Nat → Merger
  | 0, _, _, _ => none
  | fuel + 1, base, override, s => do
    let below ← s[base]?
    let above ← s[override]?
    let t ← layCell (mergeAt fuel) s.length above (s ++ [below])
    return (s.length, t)

mutual
/-- How deep mappings are nested in a value. -/
def depth : Value → Nat
  | .dict entries => depthAll entries + 1
  | _ => 0

def depthAll : List (Value × Value) → Nat
  | [] => 0
  | (_, v) :: rest => max (depth v) (depthAll rest)
end

mutual
/-- What a slot stands for, if only mappings with certain numbers are looked at. -/
inductive Reads (P : Nat → Prop) (s : Store) : Slot → Value → Prop
  | value {v : Value} (hv : v.dict? = none) : Reads P s (.value v) v
  | mapping {number : Nat} {cell : Cell} {entries : Entries} (hnumber : P number)
      (hcell : s[number]? = some cell) (h : ReadsCell P s cell entries) :
      Reads P s (.mapping number) (.dict entries)

inductive ReadsCell (P : Nat → Prop) (s : Store) : Cell → Entries → Prop
  | nil : ReadsCell P s [] []
  | cons {key v : Value} {slot : Slot} {cell : Cell} {entries : Entries}
      (hslot : Reads P s slot v) (hrest : ReadsCell P s cell entries) :
      ReadsCell P s ((key, slot) :: cell) ((key, v) :: entries)
end

section Reading

variable {P Q : Nat → Prop} {s t : Store} {slot : Slot} {cell : Cell} {entries : Entries}
  {key v : Value}

mutual
/-- Only the mappings that are looked at matter. -/
theorem Reads.mono (hst : ∀ n cell, P n → s[n]? = some cell → Q n ∧ t[n]? = some cell) :
    ∀ {slot : Slot} {v : Value}, Reads P s slot v → Reads Q t slot v
  | _, _, .value hv => .value hv
  | _, _, .mapping hnumber hcell h =>
    .mapping (hst _ _ hnumber hcell).1 (hst _ _ hnumber hcell).2 (h.mono hst)

theorem ReadsCell.mono (hst : ∀ n cell, P n → s[n]? = some cell → Q n ∧ t[n]? = some cell) :
    ∀ {cell : Cell} {entries : Entries}, ReadsCell P s cell entries → ReadsCell Q t cell entries
  | _, _, .nil => .nil
  | _, _, .cons hslot hrest => .cons (hslot.mono hst) (hrest.mono hst)
end

theorem ReadsCell.get? (h : ReadsCell P s cell entries) (key : Value) :
    Option.Rel (Reads P s) (cell.get? key) (Entries.get? entries key) := by
  induction cell generalizing entries with
  | nil =>
    cases h
    exact .none
  | cons e rest ih =>
    cases h with
    | @cons name v slot _ entries hslot hrest =>
      rw [Cell.get?, Entries.get?, List.find?_cons, List.find?_cons]
      cases name.sameKey key with
      | true => exact .some hslot
      | false => exact ih hrest

theorem ReadsCell.put (h : ReadsCell P s cell entries) (hslot : Reads P s slot v) (key : Value) :
    ReadsCell P s (cell.put key slot) (Entries.put key v entries) := by
  induction cell generalizing entries with
  | nil =>
    cases h
    exact .cons hslot .nil
  | cons e rest ih =>
    cases h with
    | @cons name w other _ entries hother hrest =>
      rw [Cell.put, Entries.put]
      by_cases hname : name.sameKey key
      · rw [if_pos hname, if_pos hname]
        exact .cons hslot hrest
      · rw [if_neg hname, if_neg hname]
        exact .cons hother (ih hrest)

end Reading

/-! ## Merging -/

/-- A store has all mappings of another one as they are there. -/
def Extends (s t : Store) : Prop :=
  ∀ (n : Nat) (cell : Cell), s[n]? = some cell → t[n]? = some cell

/-- Merging mappings up to a depth makes a mapping that stands for the merged one, and keeps all
others. Numbers that the store does not have yet are free to be looked at. -/
def Merges (merger : Merger) (limit : Nat) : Prop :=
  ∀ (P : Nat → Prop) (s : Store) (b o : Nat) (base override : Entries),
    (∀ n, s.length ≤ n → P n) → Reads P s (.mapping b) (.dict base) →
    Reads P s (.mapping o) (.dict override) → depth (.dict override) ≤ limit →
    ∃ r t, merger b o s = some (r, t) ∧ Extends s t ∧
      Reads P t (.mapping r) (.dict (merge base override))

section Merging

variable {P : Nat → Prop} {s t : Store} {slot : Slot} {cell : Cell} {entries base : Entries}
  {key v : Value} {merger : Merger} {limit number : Nat}

theorem Extends.refl (s : Store) : Extends s s := fun _ _ h => h

theorem Extends.length_le (hst : Extends s t) : s.length ≤ t.length := by
  refine Nat.le_of_not_lt fun hlt => ?_
  have hnone := hst t.length _ (List.getElem?_eq_getElem hlt)
  rw [List.getElem?_eq_none (Nat.le_refl _)] at hnone
  cases hnone

theorem ReadsCell.onward (hst : Extends s t) (h : ReadsCell P s cell entries) :
    ReadsCell P t cell entries :=
  h.mono fun n cell hn hcell => ⟨hn, hst n cell hcell⟩

theorem Reads.onward (hst : Extends s t) (h : Reads P s slot v) : Reads P t slot v :=
  h.mono fun n cell hn hcell => ⟨hn, hst n cell hcell⟩

/-- Writing to a mapping that is not looked at does not change what is read. -/
theorem ReadsCell.set (h : ReadsCell (fun n => P n ∧ n ≠ number) s cell entries) (written : Cell) :
    ReadsCell (fun n => P n ∧ n ≠ number) (s.set number written) cell entries :=
  h.mono fun _ _ hn hcell => ⟨hn, (List.getElem?_set_ne (Ne.symm hn.2)).trans hcell⟩

theorem laySlot_reads (hmerger : Merges merger limit) (hfree : ∀ n, s.length ≤ n → P n)
    {old : Option Slot} {oldValue : Option Value} (hold : Option.Rel (Reads P s) old oldValue)
    (hslot : Reads P s slot v) (hdepth : depth v ≤ limit) :
    ∃ slot' t, laySlot merger old slot s = some (slot', t) ∧ Extends s t ∧
      Reads P t slot' (overlay oldValue v) := by
  cases hslot with
  | value hv =>
    rw [overlay_of_value hv]
    refine ⟨.value v, s, ?_, Extends.refl s, .value hv⟩
    rcases old with _ | _ | _ <;> rfl
  | @mapping o above override ho habove hcell =>
    cases hold with
    | none =>
      rw [overlay_of_old rfl]
      exact ⟨.mapping o, s, rfl, Extends.refl s, .mapping ho habove hcell⟩
    | some hold =>
      cases hold with
      | value hv =>
        rw [overlay_of_old (show (some _).bind dict? = none from hv)]
        exact ⟨.mapping o, s, rfl, Extends.refl s, .mapping ho habove hcell⟩
      | @mapping b below base hb hbelow hbase =>
        obtain ⟨r, t, hrun, hextends, hreads⟩ := hmerger P s b o base override hfree
          (.mapping hb hbelow hbase) (.mapping ho habove hcell) hdepth
        refine ⟨.mapping r, t, ?_, hextends, ?_⟩
        · rw [laySlot, hrun]
          rfl
        · rwa [overlay_dict rfl rfl]

/-- Writing the slots of a mapping, one after the other, over those of another one. -/
theorem layCell_reads (hmerger : Merges merger limit) {above : Cell}
    (hfree : ∀ n, s.length ≤ n → P n) (hcell : s[number]? = some cell)
    (hbase : ReadsCell (fun n => P n ∧ n ≠ number) s cell base)
    (habove : ReadsCell (fun n => P n ∧ n ≠ number) s above entries)
    (hdepth : depthAll entries ≤ limit) :
    ∃ t cell', layCell merger number above s = some t ∧
      (∀ (n : Nat) (cell : Cell), n ≠ number → s[n]? = some cell → t[n]? = some cell) ∧
      t[number]? = some cell' ∧
      ReadsCell (fun n => P n ∧ n ≠ number) t cell' (merge base entries) := by
  -- The mapping that is written is not looked at on the way, so it can change under what is read.
  induction entries generalizing s cell base above with
  | nil =>
    cases habove
    exact ⟨s, cell, rfl, fun _ _ _ h => h, hcell, hbase⟩
  | cons e rest ih =>
    cases habove with
    | @cons key v slot above _ hslot hrest =>
      rw [depthAll, Nat.max_le] at hdepth
      have hlength : number < s.length := (List.getElem?_eq_some_iff.mp hcell).1
      have hfree' (n : Nat) (hn : s.length ≤ n) : P n ∧ n ≠ number :=
        ⟨hfree n hn, Nat.ne_of_gt (Nat.lt_of_lt_of_le hlength hn)⟩
      obtain ⟨slot', t, hlay, hextends, hreads⟩ :=
        laySlot_reads hmerger hfree' (hbase.get? key) hslot hdepth.1
      have hnumber : t[number]? = some cell := hextends number cell hcell
      have hwritten : (t.set number (cell.put key slot'))[number]? = some (cell.put key slot') :=
        List.getElem?_set_self (Nat.lt_of_lt_of_le hlength hextends.length_le)
      have hfree'' (n : Nat) (hn : (t.set number (cell.put key slot')).length ≤ n) : P n := by
        rw [List.length_set] at hn
        exact hfree n (Nat.le_trans hextends.length_le hn)
      obtain ⟨u, cell', hrun, hothers, hresult, hmerged⟩ := ih hfree'' hwritten
        (((hbase.onward hextends).put hreads key).set _) ((hrest.onward hextends).set _) hdepth.2
      refine ⟨u, cell', ?_, fun n other hn hother => ?_, hresult, hmerged⟩
      · simp only [layCell, hcell, hlay, hnumber, hrun, Option.bind_eq_bind, Option.bind_some]
      · exact hothers n other hn
          ((List.getElem?_set_ne (Ne.symm hn)).trans (hextends n other hother))

theorem mergeAt_merges (fuel : Nat) : Merges (mergeAt fuel) fuel := by
  induction fuel with
  | zero =>
    intro P s b o base override _ _ _ hdepth
    rw [depth] at hdepth
    exact absurd hdepth (Nat.not_succ_le_zero _)
  | succ fuel ih =>
    intro P s b o base override hfree hbase habove hdepth
    cases hbase with
    | @mapping b below base hb hbelow hbase =>
      cases habove with
      | @mapping o above override ho habove' habove =>
        have hcopy (n : Nat) (cell : Cell) (hn : P n) (hcell : s[n]? = some cell) :
            (P n ∧ n ≠ s.length) ∧ (s ++ [below])[n]? = some cell := by
          have hlt : n < s.length := (List.getElem?_eq_some_iff.mp hcell).1
          exact ⟨⟨hn, Nat.ne_of_lt hlt⟩, (List.getElem?_append_left hlt).trans hcell⟩
        have hfree' (n : Nat) (hn : (s ++ [below]).length ≤ n) : P n := by
          rw [List.length_append] at hn
          exact hfree n (Nat.le_trans (Nat.le_add_right _ _) hn)
        have hlast : (s ++ [below])[s.length]? = some below := List.getElem?_concat_length
        obtain ⟨t, cell, hrun, hothers, hresult, hmerged⟩ := layCell_reads ih hfree' hlast
          (hbase.mono hcopy) (habove.mono hcopy) (Nat.le_of_succ_le_succ hdepth)
        refine ⟨s.length, t, ?_, fun n cell hcell => ?_, ?_⟩
        · simp only [mergeAt, hbelow, habove', hrun, Option.bind_eq_bind, Option.bind_some]
          rfl
        · have hlt : n < s.length := (List.getElem?_eq_some_iff.mp hcell).1
          exact hothers n cell (Nat.ne_of_lt hlt) ((List.getElem?_append_left hlt).trans hcell)
        · exact .mapping (hfree _ (Nat.le_refl _)) hresult
            (hmerged.mono fun n cell hn hcell => ⟨hn.1, hcell⟩)

end Merging

end LineJoin.Settings
