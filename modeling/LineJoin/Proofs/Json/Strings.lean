import LineJoin.Json.Reader
import LineJoin.Json.Writer
import Mathlib.Data.List.TakeWhile

/-!
# Reading strings that were written

Blanks before a value are skipped. The characters of a string are read again from the escapes that are
written for them.
-/

namespace LineJoin.Json

/-! ## Blanks -/

section Blanks

variable {ws text rest : List Char} {c : Char}

theorem skipSpace_append (hws : ∀ c ∈ ws, isSpace c = true) (hc : isSpace c = false) (pos : Nat) :
    Input.skipSpace ⟨ws ++ c :: text, pos⟩ = ⟨c :: text, pos + ws.length⟩ := by
  have htake : (ws ++ c :: text).takeWhile isSpace = ws := by
    rw [List.takeWhile_append_of_pos hws, List.takeWhile_cons_of_neg (by rw [hc]; decide),
      List.append_nil]
  rw [Input.skipSpace, htake, Input.drop, List.drop_left]

theorem skipSpace_all (hws : ∀ c ∈ ws, isSpace c = true) (pos : Nat) :
    Input.skipSpace ⟨ws, pos⟩ = ⟨[], pos + ws.length⟩ := by
  rw [Input.skipSpace, List.takeWhile_eq_self_iff.mpr hws, Input.drop, List.drop_length]

theorem skipSpace_cons (hc : isSpace c = false) (pos : Nat) :
    Input.skipSpace ⟨c :: text, pos⟩ = ⟨c :: text, pos⟩ := by
  have hnone : ∀ c ∈ ([] : List Char), isSpace c = true := List.forall_mem_nil _
  exact skipSpace_append hnone hc pos

theorem isSpace_replicate (n : Nat) : ∀ c ∈ List.replicate n ' ', isSpace c = true := fun c hc => by
  rw [List.eq_of_mem_replicate hc]
  decide

theorem isSpace_lead (l : Layout) (depth : Nat) : ∀ c ∈ l.lead depth true, isSpace c = true := by
  cases l with
  | oneLine => exact fun _ h => absurd h List.not_mem_nil
  | indented width => exact List.forall_mem_cons.mpr ⟨by decide, isSpace_replicate _⟩

/-- Before an item that is not the first there is a comma, and then blanks. -/
theorem lead_eq (l : Layout) (depth : Nat) :
    ∃ ws, l.lead depth false = ',' :: ws ∧ ∀ c ∈ ws, isSpace c = true := by
  cases l with
  | oneLine => exact ⟨[' '], rfl, List.forall_mem_singleton.mpr rfl⟩
  | indented width => exact ⟨_, rfl, List.forall_mem_cons.mpr ⟨by decide, isSpace_replicate _⟩⟩

theorem isSpace_close (l : Layout) (depth : Nat) : ∀ c ∈ l.close depth, isSpace c = true := by
  cases l with
  | oneLine => exact fun _ h => absurd h List.not_mem_nil
  | indented width => exact List.forall_mem_cons.mpr ⟨by decide, isSpace_replicate _⟩

end Blanks

/-! ## Strings -/

section Strings

variable {start fuel pos : Nat} {text rest : List Char} {c : Char}

theorem hexUnit?_control : ∀ n < 32, hexUnit? (hexDigits 4 n) = some n ∧
    (hexDigits 4 n).length = 4 ∧ isHighHalf n = false := by
  decide +kernel

theorem length_escapeChar (c : Char) : 0 < (escapeChar c).length := by
  unfold escapeChar
  repeat' split
  all_goals exact Nat.succ_pos _

/-- A control is read from its code. -/
theorem readUnicode_control {n : Nat} (hn : n < 32) (ht : text ≠ []) (pos : Nat) :
    readUnicode ⟨hexDigits 4 n ++ text, pos⟩ = .ok (n, ⟨text, pos + 4⟩) := by
  obtain ⟨hunit, hlength, hhalf⟩ := hexUnit?_control n hn
  have htake : (hexDigits 4 n ++ text).take 4 = hexDigits 4 n := List.take_left' hlength
  have hdrop : (hexDigits 4 n ++ text).drop 4 = text := List.drop_left' hlength
  rw [readUnicode, htake, hdrop, if_neg (by simpa using ht), hunit]
  simp only [hhalf, Input.drop, hdrop, Bool.false_and, Bool.false_eq_true, if_false]
  rfl

/-- The first code point of a string, read before the others. -/
def consRead (n : Nat) (r : Except Fault (List Nat × Input)) : Except Fault (List Nat × Input) :=
  r.map fun p => (n :: p.1, p.2)

theorem bind_eq_consRead (n : Nat) (r : Except Fault (List Nat × Input)) :
    (do
      let (codes, last) ← r
      return (n :: codes, last)) = consRead n r := by
  cases r <;> rfl

theorem readString_simple {e : Char} (hc : simpleEscape? e = some c) :
    readString start (fuel + 1) ⟨'\\' :: e :: text, pos⟩ =
      consRead c.toNat (readString start fuel ⟨text, pos + 2⟩) := by
  rw [readString]
  split
  · rename_i h; cases h
  · rename_i h; cases h
  · rename_i h; cases h
  · rename_i h; cases h; cases hc
  · rename_i h
    cases h
    rw [hc]
    exact bind_eq_consRead _ _
  · rename_i hnot h
    cases h
    exact absurd rfl (hnot _ _ rfl)

theorem readString_control {n : Nat} (hn : n < 32) (ht : text ≠ []) (start fuel pos : Nat) :
    readString start (fuel + 1) ⟨'\\' :: 'u' :: hexDigits 4 n ++ text, pos⟩ =
      consRead n (readString start fuel ⟨text, pos + 6⟩) := by
  rw [readString]
  split
  · rename_i h; cases h
  · rename_i h; cases h
  · rename_i h; cases h
  · rename_i h
    change (readUnicode ⟨hexDigits 4 n ++ text, pos + 2⟩ >>= _) = _
    rw [readUnicode_control hn ht]
    exact bind_eq_consRead _ _
  · rename_i hnot h
    cases h
    exact absurd rfl hnot
  · rename_i hnot h
    cases h
    exact absurd rfl (hnot _ _ rfl)

theorem readString_plain (hquote : c ≠ '"') (hslash : c ≠ '\\') (hc : ¬c.toNat < 32) :
    readString start (fuel + 1) ⟨c :: text, pos⟩ =
      consRead c.toNat (readString start fuel ⟨text, pos + 1⟩) := by
  rw [readString]
  split
  · rename_i h; cases h
  · rename_i h; cases h; exact absurd rfl hquote
  · rename_i h; cases h; exact absurd rfl hslash
  · rename_i h; cases h; exact absurd rfl hslash
  · rename_i h; cases h; exact absurd rfl hslash
  · rename_i h
    cases h
    rw [if_neg hc]
    exact bind_eq_consRead _ _

/-- A character of a string is read from what is written for it. -/
theorem readString_escapeChar (ht : text ≠ []) (pos : Nat) :
    readString start (fuel + 1) ⟨escapeChar c ++ text, pos⟩ =
      consRead c.toNat (readString start fuel ⟨text, pos + (escapeChar c).length⟩) := by
  unfold escapeChar
  split
  · subst c; exact readString_simple rfl
  split
  · subst c; exact readString_simple rfl
  split
  · subst c; exact readString_simple rfl
  split
  · subst c; exact readString_simple rfl
  split
  · subst c; exact readString_simple rfl
  split
  · subst c; exact readString_simple rfl
  split
  · subst c; exact readString_simple rfl
  split
  · rename_i hc
    have hlength : (hexDigits 4 c.toNat).length = 4 := (hexUnit?_control _ hc).2.1
    have hread := readString_control hc ht start fuel pos
    rw [List.length_cons, List.length_cons, hlength]
    exact hread
  · rename_i hquote hslash _ _ _ _ _ hc
    exact readString_plain hquote hslash hc

/-- The characters of a string are read from what is written for them, with a step for each and one
for the closing quote. -/
theorem readString_text (start : Nat) (cs rest : List Char) (hfuel : cs.length < fuel) (pos : Nat) :
    ∃ last, readString start fuel ⟨cs.flatMap escapeChar ++ '"' :: rest, pos⟩ =
      .ok (cs.map Char.toNat, ⟨rest, last⟩) := by
  induction cs generalizing fuel pos with
  | nil =>
    obtain ⟨fuel, rfl⟩ := Nat.exists_eq_succ_of_ne_zero (Nat.ne_of_gt hfuel)
    exact ⟨pos + 1, rfl⟩
  | cons c cs ih =>
    obtain ⟨fuel, rfl⟩ := Nat.exists_eq_succ_of_ne_zero (Nat.ne_of_gt (Nat.zero_lt_of_lt hfuel))
    obtain ⟨last, hlast⟩ := ih (Nat.lt_of_succ_lt_succ hfuel) (pos + (escapeChar c).length)
    refine ⟨last, ?_⟩
    rw [List.flatMap_cons, List.append_assoc,
      readString_escapeChar (List.append_ne_nil_of_right_ne_nil _ (List.cons_ne_nil _ _)), hlast]
    rfl

theorem not_isHalf_toNat (c : Char) : isHalf c.toNat = false := by
  have hvalid : c.toNat < 0xD800 ∨ 0xDFFF < c.toNat ∧ c.toNat < 0x110000 := c.valid
  simp only [isHalf, Bool.and_eq_false_iff, decide_eq_false_iff_not]
  omega

/-- The code points of a text give it back. -/
theorem textOf_toNat (s : String) : textOf (s.toList.map Char.toNat) = s := by
  have hchars : (s.toList.map Char.toNat).map
      (fun n => if isHalf n then '\uFFFD' else Char.ofNat n) = s.toList := by
    rw [List.map_map]
    refine (List.map_congr_left fun c _ => ?_).trans (List.map_id _)
    rw [Function.comp_apply, not_isHalf_toNat, if_neg Bool.false_ne_true, Char.ofNat_toNat, id]
  rw [textOf, hchars, String.ofList_toList]

theorem length_le_flatMap_escapeChar (cs : List Char) :
    cs.length ≤ (cs.flatMap escapeChar).length := by
  induction cs with
  | nil => exact Nat.le_refl 0
  | cons c cs ih =>
    have hc := length_escapeChar c
    rw [List.flatMap_cons, List.length_append, List.length_cons]
    omega

end Strings

end LineJoin.Json
