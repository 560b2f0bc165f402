import LineJoin.Proofs.Json.Numerals
import LineJoin.Proofs.Results
import LineJoin.Proofs.Value.Distinct
import Mathlib.Data.List.Induction
import Mathlib.Data.List.TakeWhile

/-!
# Values that JSON holds

What is read from a JSON text is made of JSON values only: there is nothing in it that cannot be
changed. No object in it has a name twice, and no integer has more digits than are read.
-/

namespace LineJoin.Json

open Entries

inductive IsJson : Value → Prop
  | null : IsJson .null
  | bool (b : Bool) : IsJson (.bool b)
  | int (n : Int) : IsJson (.int n)
  | float (x : Binary64) : IsJson (.float x)
  | str (s : String) : IsJson (.str s)
  | list {items : List Value} (hitems : ∀ v ∈ items, IsJson v) : IsJson (.list items)
  | dict {entries : Entries} (hkeys : ∀ e ∈ entries, IsJson e.1)
    (hvalues : ∀ e ∈ entries, IsJson e.2) : IsJson (.dict entries)

/-- Pairs of JSON values. -/
def AreJson (pairs : List (Value × Value)) : Prop := ∀ p ∈ pairs, IsJson p.1 ∧ IsJson p.2

theorem AreJson.dict {entries : Entries} (h : AreJson entries) : IsJson (.dict entries) :=
  .dict (fun e he => (h e he).1) fun e he => (h e he).2

/-- A value as it comes out of a JSON text. -/
inductive Stored : Value → Prop
  | null : Stored .null
  | bool (b : Bool) : Stored (.bool b)
  | int {n : Int} (hlength : (decimalDigits n.natAbs).length ≤ digitLimit) : Stored (.int n)
  | float (x : Binary64) : Stored (.float x)
  | str (s : String) : Stored (.str s)
  | list {items : List Value} (hitems : ∀ v ∈ items, Stored v) : Stored (.list items)
  | dict {entries : Entries} (hnames : ∀ e ∈ entries, ∃ name, e.1 = .str name)
      (hdistinct : Distinct entries) (hvalues : ∀ e ∈ entries, Stored e.2) : Stored (.dict entries)

theorem Stored.isJson {v : Value} (h : Stored v) : IsJson v := by
  induction h with
  | null => exact .null
  | bool b => exact .bool b
  | int _ => exact .int _
  | float x => exact .float x
  | str s => exact .str s
  | list _ ih => exact .list ih
  | dict hnames _ _ ih =>
    refine .dict (fun e he => ?_) ih
    obtain ⟨name, hname⟩ := hnames e he
    rw [hname]
    exact .str name

/-- The members of an object that is read. -/
def AreStored (members : List (Value × Value)) : Prop :=
  ∀ p ∈ members, (∃ name, p.1 = .str name) ∧ Stored p.2

/-- What holds of all keys and of all values still does after a value is put in. -/
theorem forall_mem_put {K V : Value → Prop} {key v : Value} {entries : Entries}
    (h : ∀ e ∈ entries, K e.1 ∧ V e.2) (hkey : K key) (hv : V v) :
    ∀ e ∈ Entries.put key v entries, K e.1 ∧ V e.2 := by
  intro e he
  rcases put_cases key v entries with ⟨before, f, after, rfl, -, -, hput⟩ | ⟨-, hput⟩
  · rw [hput] at he
    rcases List.mem_append.mp he with he | he
    · exact h e (List.mem_append_left _ he)
    · rcases List.mem_cons.mp he with rfl | he
      · exact ⟨(h f (List.mem_append_right _ List.mem_cons_self)).1, hv⟩
      · exact h e (List.mem_append_right _ (List.mem_cons_of_mem _ he))
  · rw [hput] at he
    rcases List.mem_append.mp he with he | he
    · exact h e he
    · rw [List.mem_singleton.mp he]
      exact ⟨hkey, hv⟩

theorem AreStored.ofPairs {members : List (Value × Value)} (h : AreStored members) :
    AreStored (ofPairs members) := by
  suffices ∀ entries, AreStored entries →
      AreStored (members.foldl (fun entries p => Entries.put p.1 p.2 entries) entries) from
    this [] fun _ h => absurd h List.not_mem_nil
  induction members with
  | nil => exact fun _ h => h
  | cons p rest ih =>
    have hp := h p List.mem_cons_self
    exact fun entries hentries => ih (fun q hq => h q (List.mem_cons_of_mem _ hq)) _
      (forall_mem_put (K := fun key => ∃ name, key = .str name) hentries hp.1 hp.2)

theorem AreStored.dict {members : List (Value × Value)} (h : AreStored members) :
    Stored (.dict (Entries.ofPairs members)) :=
  .dict (fun e he => (h.ofPairs e he).1) (distinct_ofPairs members) fun e he => (h.ofPairs e he).2

/-! ## Numbers -/

theorem digitValue_le (h : isDigit c = true) : digitValue c ≤ 9 := by
  simp only [isDigit, Bool.and_eq_true, decide_eq_true_eq] at h
  have h9 : c.toNat ≤ 57 := h.2
  rw [digitValue]
  omega

/-- A number is written with as many digits as it is read from, or with fewer. -/
theorem length_decimalDigits_le {ds : List Char} (h : ∀ c ∈ ds, isDigit c = true) (hne : ds ≠ []) :
    (decimalDigits (digitsValue ds)).length ≤ ds.length := by
  induction ds using List.reverseRecOn with
  | nil => exact absurd rfl hne
  | append_singleton ds d ih =>
    obtain ⟨hds, hd⟩ := List.forall_mem_append.mp h
    have hdigit := digitValue_le (hd d List.mem_cons_self)
    rw [digitsValue_append, List.length_append, List.length_singleton, decimalDigits]
    by_cases hlt : 10 * digitsValue ds + digitValue d < 10
    · rw [Nat.toDigits_of_lt_base hlt]
      exact Nat.le_add_left 1 _
    · have hfront : (10 * digitsValue ds + digitValue d) / 10 = digitsValue ds := by omega
      have hne : ds ≠ [] := by
        rintro rfl
        exact hlt (by simpa [digitsValue] using Nat.lt_succ_of_le hdigit)
      rw [Nat.toDigits_of_base_le (by omega) (Nat.le_of_not_lt hlt), hfront, List.length_append,
        List.length_singleton]
      exact Nat.add_le_add_right (ih hds hne) 1

theorem whole_of_readNumeral? {cs : List Char} {n : Numeral} (h : readNumeral? cs = some n) :
    n.whole ≠ [] ∧ ∀ c ∈ n.whole, isDigit c = true := by
  unfold readNumeral? at h
  split at h
  dsimp only at h
  split at h
  · obtain rfl := Option.some.inj h
    exact ⟨List.cons_ne_nil _ _, List.forall_mem_singleton.mpr (by decide)⟩
  · split at h
    · cases h
    · rename_i hne
      obtain rfl := Option.some.inj h
      exact ⟨fun hnil => hne (List.isEmpty_iff.mpr hnil), fun c hc => List.mem_takeWhile_imp hc⟩

theorem stored_value {cs : List Char} {n : Numeral} {v : Value} (hn : readNumeral? cs = some n)
    (h : n.value = .ok v) : Stored v := by
  unfold Numeral.value at h
  split at h
  · split at h
    · cases h
    · rename_i hlength
      cases h
      obtain ⟨hne, hdigits⟩ := whole_of_readNumeral? hn
      have hle := Nat.le_trans (length_decimalDigits_le hdigits hne) (Nat.not_lt.mp hlength)
      refine .int ?_
      split
      · rwa [Int.natAbs_neg, Int.natAbs_natCast]
      · rwa [Int.natAbs_natCast]
  · cases h
    exact .float _

/-! ## Reading -/

theorem stored_constants : ∀ c ∈ constants, Stored c.2 := by
  simp only [constants, List.forall_mem_cons]
  exact ⟨.null, .bool _, .bool _, .float _, .float _, .float _,
    fun _ h => absurd h List.not_mem_nil⟩

theorem stored_readScalar {i next : Input} {v : Value} (h : readScalar i = .ok (v, next)) :
    Stored v := by
  unfold readScalar at h
  split at h
  · rename_i hfind
    cases h
    exact stored_constants _ (List.mem_of_find?_eq_some hfind)
  · split at h
    · rename_i hn
      obtain ⟨v', hv, h⟩ := ok_of_bind h
      cases h
      exact stored_value hn hv
    · cases h

/-- Each reader gives stored values with so much fuel. -/
structure ReadsStored (fuel : Nat) : Prop where
  value : ∀ {i next : Input} {v : Value}, readValue plain fuel i = .ok (v, next) → Stored v
  items : ∀ {i next : Input} {items : List Value}, readItems plain fuel i = .ok (items, next) →
    ∀ v ∈ items, Stored v
  members : ∀ {i next : Input} {members : List (Value × Value)},
    readMembers plain fuel i = .ok (members, next) → AreStored members

namespace ReadsStored

variable {fuel : Nat} {i next : Input}

theorem value_succ (h : ReadsStored fuel) {v : Value}
    (hread : readValue plain (fuel + 1) i = .ok (v, next)) : Stored v := by
  rw [readValue] at hread
  split at hread
  · obtain ⟨⟨cs, rest⟩, -, hread⟩ := ok_of_bind hread
    cases hread
    exact .str _
  · dsimp only at hread
    split at hread
    · cases hread
      exact .list fun _ h => absurd h List.not_mem_nil
    · obtain ⟨⟨items, rest⟩, hitems, hread⟩ := ok_of_bind hread
      cases hread
      exact .list (h.items hitems)
  · dsimp only at hread
    split at hread
    · cases hread
      exact (show AreStored [] from List.forall_mem_nil _).dict
    · obtain ⟨⟨pairs, rest⟩, hmembers, hread⟩ := ok_of_bind hread
      cases hread
      exact (h.members hmembers).dict
  · exact stored_readScalar hread

theorem items_succ (h : ReadsStored fuel) {items : List Value}
    (hread : readItems plain (fuel + 1) i = .ok (items, next)) : ∀ v ∈ items, Stored v := by
  rw [readItems] at hread
  obtain ⟨⟨v, rest⟩, hfirst, hread⟩ := ok_of_bind hread
  dsimp only at hread
  split at hread
  · cases hread
    exact List.forall_mem_singleton.mpr (h.value hfirst)
  · obtain ⟨⟨vs, rest⟩, hrest, hread⟩ := ok_of_bind hread
    cases hread
    exact List.forall_mem_cons.mpr ⟨h.value hfirst, h.items hrest⟩
  · cases hread

theorem members_succ (h : ReadsStored fuel) {members : List (Value × Value)}
    (hread : readMembers plain (fuel + 1) i = .ok (members, next)) : AreStored members := by
  rw [readMembers] at hread
  split at hread
  · obtain ⟨⟨name, rest⟩, -, hread⟩ := ok_of_bind hread
    dsimp only at hread
    split at hread
    · obtain ⟨⟨v, rest⟩, hfirst, hread⟩ := ok_of_bind hread
      dsimp only at hread
      split at hread
      · cases hread
        exact List.forall_mem_singleton.mpr ⟨⟨_, rfl⟩, h.value hfirst⟩
      · obtain ⟨⟨members, rest⟩, hrest, hread⟩ := ok_of_bind hread
        cases hread
        exact List.forall_mem_cons.mpr ⟨⟨⟨_, rfl⟩, h.value hfirst⟩, h.members hrest⟩
      · cases hread
    · cases hread
  · cases hread

end ReadsStored

theorem readsStored (fuel : Nat) : ReadsStored fuel := by
  induction fuel with
  | zero => exact ⟨fun h => (nomatch h), fun h => (nomatch h), fun h => (nomatch h)⟩
  | succ fuel ih => exact ⟨ih.value_succ, ih.items_succ, ih.members_succ⟩

theorem stored_of_read {text : List Char} {v : Value} (h : read text = .ok v) : Stored v := by
  unfold read readWith at h
  split at h
  · cases h
  · obtain ⟨⟨v', next⟩, hread, h⟩ := ok_of_bind h
    dsimp only at h
    split at h
    · cases h
      exact (readsStored _).value hread
    · cases h

theorem isJson_of_read {text : List Char} {v : Value} (h : read text = .ok v) : IsJson v :=
  (stored_of_read h).isJson

end LineJoin.Json
