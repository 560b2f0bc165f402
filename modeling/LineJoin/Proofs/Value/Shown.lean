import LineJoin.Proofs.Value.Plain

/-!
# How keys are shown

Names are made of small letters and underscores, paths of names and dots. A value that is no text is
never shown as a name or a path that has one of these letters: what it is shown as has a digit, a
capital letter, a bracket, a quote or a sign in it. Only some numbers are words (`nan`, `inf`).
-/

namespace LineJoin

/-- The characters of names and paths. -/
def isPathChar (c : Char) : Bool := c.isLower || c == '_' || c == '.'

/-- A text that could not be a path: it has another character in it, or it is the text of a number
that has no digit. -/
def Pathless (s : String) : Prop :=
  (∃ c ∈ s.toList, isPathChar c = false) ∨ s ∈ ["", "nan", "inf"]

section Texts

variable {c : Char} {s : String}

theorem pathless_of_mem (hc : c ∈ s.toList) (h : isPathChar c = false) : Pathless s :=
  .inl ⟨c, hc, h⟩

theorem isPathChar_of_isDigit (h : c.isDigit = true) : isPathChar c = false := by
  simp only [Char.isDigit, Bool.and_eq_true, decide_eq_true_eq, UInt32.le_iff_toNat_le] at h
  have hlower : c.isLower = (decide (c.val ≥ 'a'.val) && decide (c.val ≤ 'z'.val)) := rfl
  simp only [isPathChar, hlower, Bool.or_eq_false_iff, beq_eq_false_iff_ne, ne_eq,
    Bool.and_eq_false_iff, decide_eq_false_iff_not, ge_iff_le, UInt32.le_iff_toNat_le]
  have h9 : c.val.toNat ≤ 57 := h.2
  refine ⟨⟨.inl fun ha => ?_, ?_⟩, ?_⟩
  · have ha : 97 ≤ c.val.toNat := ha
    omega
  · rintro rfl
    exact absurd h9 (by decide)
  · rintro rfl
    exact absurd h.1 (by decide)

theorem isPathChar_of_mem_decimalDigits {n : Nat} (h : c ∈ decimalDigits n) :
    isPathChar c = false :=
  isPathChar_of_isDigit (Nat.isDigit_of_mem_toDigits (by omega) (by omega) h)

theorem exists_mem_natText (n : Nat) : ∃ c ∈ (natText n).toList, isPathChar c = false := by
  obtain ⟨c, hc⟩ := List.exists_mem_of_ne_nil (decimalDigits n) Nat.toDigits_ne_nil
  rw [natText, String.toList_ofList]
  exact ⟨c, hc, isPathChar_of_mem_decimalDigits hc⟩

theorem pathless_intText (n : Int) : Pathless (intText n) := by
  obtain ⟨c, hc, h⟩ := exists_mem_natText n.natAbs
  unfold intText
  split
  · exact pathless_of_mem (String.toList_append ▸ List.mem_append_right _ hc) h
  · exact pathless_of_mem hc h

/-- Text between a start that no path has and whatever follows. -/
theorem pathless_append {start : String} (h : ∃ c ∈ start.toList, isPathChar c = false)
    (rest : String) : Pathless (start ++ rest) := by
  obtain ⟨c, hc, hpath⟩ := h
  exact pathless_of_mem (String.toList_append ▸ List.mem_append_left _ hc) hpath

theorem pathless_quotedBytes (data : List UInt8) : Pathless (quotedBytes data) := by
  have hquote : isPathChar (Quoted.chooseQuote (data.map byteChar)) = false := by
    unfold Quoted.chooseQuote
    split <;> decide
  refine pathless_of_mem ?_ hquote
  rw [quotedBytes, String.toList_ofList]
  exact List.mem_cons_of_mem _ List.mem_cons_self

theorem pathless_tupleText (items : List String) : Pathless (Value.tupleText items) := by
  unfold Value.tupleText
  split <;>
  · rw [String.append_assoc]
    exact pathless_append ⟨'(', by decide, by decide⟩ _

theorem pathless_braces (items : List String) : Pathless (Value.braces items) := by
  rw [Value.braces, String.append_assoc]
  exact pathless_append ⟨'\x7b', by decide, by decide⟩ _

theorem pathless_dayText (d : Day) : Pathless d.text := by
  rw [Day.text, String.append_assoc, String.append_assoc]
  exact pathless_of_mem (c := '-') (by simp) (by decide)

end Texts

/-! ## Numbers -/

section Floats

variable {digits : List Char} {point : Int}

theorem pathless_positional (hdigits : ∀ c ∈ digits, isPathChar c = false) :
    Pathless (String.ofList (Binary64.positional digits point)) := by
  rw [Pathless, String.toList_ofList]
  unfold Binary64.positional
  split
  · exact .inl ⟨'0', List.mem_cons_self, by decide⟩
  · split
    · exact .inl ⟨'0', by simp, by decide⟩
    · rename_i hpoint hlength
      have hfirst : 0 < digits.length := by omega
      refine .inl ⟨digits.get ⟨0, hfirst⟩, ?_, hdigits _ (List.get_mem _ _)⟩
      exact List.mem_append_left _ (List.mem_take_iff_getElem.mpr ⟨0, by omega, rfl⟩)

theorem pathless_scientific (hdigits : ∀ c ∈ digits, isPathChar c = false) :
    Pathless (Binary64.scientific digits point) := by
  unfold Binary64.scientific
  split
  · exact .inr List.mem_cons_self
  · rename_i d
    exact pathless_append ⟨d, by simp, hdigits d List.mem_cons_self⟩ _
  · rename_i d rest _
    exact pathless_append ⟨d, by simp, hdigits d List.mem_cons_self⟩ _

theorem pathless_binary64 (x : Binary64) : Pathless x.text := by
  unfold Binary64.text
  split
  · exact .inr (by decide)
  · split
    · exact pathless_of_mem (c := '-') (by decide) (by decide)
    · exact .inr (by decide)
  · split <;> exact pathless_of_mem (c := '0') (by decide) (by decide)
  · dsimp only
    generalize Decimal.shortest _ _ = d
    have hdigits : ∀ c ∈ ((decimalDigits d.digits).reverse.dropWhile (· == '0')).reverse,
        isPathChar c = false := fun c hc =>
      isPathChar_of_mem_decimalDigits
        (List.mem_reverse.mp ((List.dropWhile_sublist _).mem (List.mem_reverse.mp hc)))
    split
    · exact pathless_append ⟨'-', by decide, by decide⟩ _
    · split
      · exact pathless_positional hdigits
      · exact pathless_scientific hdigits

end Floats

/-- What a value that is no text is shown as is no path. -/
theorem Value.pathless_display : ∀ {v : Value}, v.text? = none → Pathless v.display
  | .shared _ v, h => pathless_display (v := v) h
  | .null, _ => pathless_of_mem (c := 'N') (by decide) (by decide)
  | .bool true, _ => pathless_of_mem (c := 'T') (by decide) (by decide)
  | .bool false, _ => pathless_of_mem (c := 'F') (by decide) (by decide)
  | .int n, _ => pathless_intText n
  | .float x, _ => pathless_binary64 x
  | .bytes data, _ => pathless_quotedBytes data
  | .list items, _ => by
    change Pathless ("[" ++ _ ++ "]")
    rw [String.append_assoc]
    exact pathless_append ⟨'[', by decide, by decide⟩ _
  | .tuple items, _ => pathless_tupleText _
  | .set items, _ => by
    change Pathless (literal (.set items))
    unfold literal
    split
    · exact pathless_of_mem (c := '(') (by decide) (by decide)
    · exact pathless_braces _
  | .dict entries, _ => pathless_braces _
  | .frozen entries, _ => by
    change Pathless ("mappingproxy(" ++ _ ++ ")")
    rw [String.append_assoc]
    exact pathless_append ⟨'(', by decide, by decide⟩ _
  | .object fields, _ => by
    change Pathless ("namespace(" ++ _ ++ ")")
    rw [String.append_assoc]
    exact pathless_append ⟨'(', by decide, by decide⟩ _
  | .rule r, _ => by
    change Pathless ("BreakRule(before_break=" ++ _ ++ ", after_break=" ++ _ ++ ")")
    simp only [String.append_assoc]
    exact pathless_append ⟨'(', by decide, by decide⟩ _
  | .day d, _ => pathless_dayText d
  | .moment m, _ => by
    change Pathless (m.textWith " ")
    have hminus : '-' ∈ m.day.text.toList := by simp [Day.text]
    simp only [Moment.textWith, String.append_assoc]
    exact pathless_append ⟨'-', hminus, by decide⟩ _

end LineJoin
