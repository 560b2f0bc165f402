import LineJoin.Json.Reader
import LineJoin.Json.Writer

/-!
# Reading integers that were written

An integer is read again from its decimal digits, if nothing follows that a number could go on with.
-/

namespace LineJoin.Json

/-! ## Numbers -/

section Numbers

variable {rest : List Char} {n : Int}

/-- What follows a value: the end of the text, or a character that no number goes on with. -/
def Delimited (rest : List Char) : Prop :=
  ∀ c ∈ rest.head?, c = ',' ∨ c = ']' ∨ c = '\x7d' ∨ isSpace c = true

theorem isDigit_decimalDigits (m : Nat) : ∀ c ∈ decimalDigits m, isDigit c = true := fun c hc => by
  have hdigit : c.isDigit = true := Nat.isDigit_of_mem_toDigits (by omega) (by omega) hc
  simp only [Char.isDigit, Bool.and_eq_true, decide_eq_true_eq] at hdigit
  simp only [isDigit, Bool.and_eq_true, decide_eq_true_eq]
  exact hdigit

theorem decimalDigits_ne_nil (m : Nat) : decimalDigits m ≠ [] := Nat.toDigits_ne_nil

theorem digitsValue_append (ds : List Char) (d : Char) :
    digitsValue (ds ++ [d]) = 10 * digitsValue ds + digitValue d := by
  rw [digitsValue, List.foldl_append]
  rfl

theorem digitValue_digitChar : ∀ d < 10, digitValue (Nat.digitChar d) = d := by decide

theorem digitsValue_decimalDigits (m : Nat) : digitsValue (decimalDigits m) = m := by
  induction m using Nat.strongRecOn with
  | ind m ih =>
    rw [decimalDigits]
    by_cases hm : m < 10
    · rw [Nat.toDigits_of_lt_base hm]
      have hdigit := digitValue_digitChar m hm
      simpa [digitsValue] using hdigit
    · have hdigit := digitValue_digitChar (m % 10) (Nat.mod_lt m (by omega))
      have hfront := ih (m / 10) (by omega)
      rw [decimalDigits] at hfront
      rw [Nat.toDigits_of_base_le (by omega) (by omega), digitsValue_append, hfront, hdigit]
      omega

/-- Only zero is written with a zero in front. -/
theorem eq_zero_of_decimalDigits {m : Nat} {ds : List Char} (h : decimalDigits m = '0' :: ds) :
    m = 0 := by
  induction m using Nat.strongRecOn generalizing ds with
  | ind m ih =>
    rw [decimalDigits] at h
    by_cases hm : m < 10
    · rw [Nat.toDigits_of_lt_base hm] at h
      have hzero : ∀ d < 10, Nat.digitChar d = '0' → d = 0 := by decide
      exact hzero m hm (List.cons.inj h).1
    · rw [Nat.toDigits_of_base_le (by omega) (by omega)] at h
      cases hfront : Nat.toDigits 10 (m / 10) with
      | nil => exact absurd hfront Nat.toDigits_ne_nil
      | cons c cs =>
        rw [hfront, List.cons_append] at h
        obtain ⟨rfl, -⟩ := List.cons.inj h
        have hlow := ih (m / 10) (by omega) hfront
        omega

theorem Delimited.not_digit (h : Delimited rest) : ∀ c ∈ rest.head?, isDigit c = false := by
  intro c hc
  rcases h c hc with rfl | rfl | rfl | hspace
  · decide
  · decide
  · decide
  · simp only [isSpace, Bool.or_eq_true, beq_iff_eq] at hspace
    rcases hspace with ((rfl | rfl) | rfl) | rfl <;> decide

theorem Delimited.readFraction (h : Delimited rest) : readFraction rest = none := by
  unfold Json.readFraction
  split
  · exact absurd (h '.' rfl) (by decide)
  · rfl

theorem Delimited.readExponent (h : Delimited rest) : readExponent rest = none := by
  cases rest with
  | nil => rfl
  | cons e rest =>
    refine if_neg ?_
    rw [Bool.or_eq_true, decide_eq_true_eq, decide_eq_true_eq]
    rintro (rfl | rfl) <;> exact absurd (h _ rfl) (by decide)

theorem takeWhile_decimalDigits (h : Delimited rest) (m : Nat) :
    (decimalDigits m ++ rest).takeWhile isDigit = decimalDigits m := by
  rw [List.takeWhile_append_of_pos (isDigit_decimalDigits m)]
  cases rest with
  | nil => simp
  | cons c rest => simp [h.not_digit c rfl]

/-- A number is read after its sign. -/
theorem readNumeral?_of_sign {text : List Char} {negative : Bool} {signLength m : Nat}
    (hsign : (match text with
      | '-' :: rest => (true, 1, rest)
      | rest => (false, 0, rest)) = (negative, signLength, decimalDigits m ++ rest))
    (h : Delimited rest) : readNumeral? text =
      some ⟨negative, decimalDigits m, none, none, signLength + (decimalDigits m).length⟩ := by
  unfold readNumeral?
  split
  rename_i hread
  cases hread.symm.trans hsign
  dsimp only
  split
  · rename_i tail hzero
    have hdigits : decimalDigits m = ['0'] := by
      cases hdigits : decimalDigits m with
      | nil => exact absurd hdigits (decimalDigits_ne_nil _)
      | cons c cs =>
        rw [hdigits, List.cons_append] at hzero
        obtain ⟨rfl, -⟩ := List.cons.inj hzero
        rw [← hdigits, eq_zero_of_decimalDigits hdigits]
        rfl
    rw [hdigits] at hzero
    obtain rfl := (List.cons.inj hzero).2
    simp [hdigits, h.readFraction, h.readExponent]
  · rw [takeWhile_decimalDigits h]
    simp [decimalDigits_ne_nil, h.readFraction, h.readExponent]

theorem toList_intText (n : Int) : (intText n).toList =
    (if n < 0 then ['-'] else []) ++ decimalDigits n.natAbs := by
  rw [intText]
  split <;> simp [natText]

/-- A number is written with a digit or the minus sign in front. -/
theorem intText_head (n : Int) (rest : List Char) : ∃ c text,
    (intText n).toList ++ rest = c :: text ∧
      (isDigit c = true ∨ c = '-' ∧ ∃ d ∈ text.head?, isDigit d = true) := by
  cases hdigits : decimalDigits n.natAbs with
  | nil => exact absurd hdigits (decimalDigits_ne_nil _)
  | cons d ds =>
    have hd : isDigit d = true := isDigit_decimalDigits n.natAbs d (hdigits ▸ List.mem_cons_self)
    rw [toList_intText, hdigits]
    split
    · exact ⟨'-', d :: (ds ++ rest), rfl, .inr ⟨rfl, d, rfl, hd⟩⟩
    · exact ⟨d, ds ++ rest, rfl, .inl hd⟩

theorem readNumeral?_intText (h : Delimited rest) (n : Int) :
    readNumeral? ((intText n).toList ++ rest) =
      some ⟨decide (n < 0), decimalDigits n.natAbs, none, none, (intText n).toList.length⟩ := by
  obtain ⟨c, text, htext, hc⟩ := intText_head n rest
  rw [toList_intText]
  by_cases hn : n < 0
  · rw [if_pos hn, readNumeral?_of_sign rfl h, decide_eq_true hn, List.length_append]
    rfl
  · rw [toList_intText, if_neg hn, List.nil_append] at htext
    rw [if_neg hn, List.nil_append, readNumeral?_of_sign ?_ h, decide_eq_false hn, Nat.zero_add]
    split
    · rename_i hminus
      have hminus : '-' ∈ decimalDigits n.natAbs := by
        cases hdigits : decimalDigits n.natAbs with
        | nil => exact absurd hdigits (decimalDigits_ne_nil _)
        | cons d ds =>
          rw [hdigits, List.cons_append] at hminus
          rw [(List.cons.inj hminus).1]
          exact List.mem_cons_self
      exact absurd (isDigit_decimalDigits _ _ hminus) (by decide)
    · rfl

theorem constants_front : ∀ p ∈ constants, 2 ≤ p.1.toList.length ∧
    (p.1.toList.take 2).any isDigit = false := by
  decide +kernel

/-- No number is one of the other scalars. -/
theorem find?_constants_intText (n : Int) (rest : List Char) (pos : Nat) :
    constants.find? (fun c =>
      (Input.after? ⟨(intText n).toList ++ rest, pos⟩ c.1).isSome) = none := by
  obtain ⟨c, text, htext, hc⟩ := intText_head n rest
  rw [htext, List.find?_eq_none]
  intro p hp hsome
  have hprefix : p.1.toList <+: c :: text := by
    unfold Input.after? at hsome
    split at hsome
    · exact List.isPrefixOf_iff_prefix.mp ‹_›
    · cases hsome
  obtain ⟨more, hmore⟩ := hprefix
  obtain ⟨hlength, hdigits⟩ := constants_front p hp
  rw [List.any_eq_false] at hdigits
  match hname : p.1.toList with
  | [] | [_] => simp [hname] at hlength
  | first :: second :: name =>
    rw [hname] at hmore hdigits
    obtain ⟨rfl, rfl⟩ := List.cons.inj hmore
    rcases hc with hc | ⟨-, d, hd, hdigit⟩
    · exact absurd hc (hdigits first List.mem_cons_self)
    · obtain rfl := Option.some.inj hd
      exact absurd hdigit (hdigits second (List.mem_cons_of_mem _ List.mem_cons_self))

theorem readScalar_int (h : Delimited rest) {n : Int}
    (hlength : (decimalDigits n.natAbs).length ≤ digitLimit) (pos : Nat) :
    ∃ last, readScalar ⟨(intText n).toList ++ rest, pos⟩ = .ok (.int n, ⟨rest, last⟩) := by
  refine ⟨pos + (intText n).toList.length, ?_⟩
  have hvalue : (Numeral.mk (decide (n < 0)) (decimalDigits n.natAbs) none none
      (intText n).toList.length).value = .ok (.int n) := by
    rw [Numeral.value]
    dsimp only
    rw [if_neg (Nat.not_lt.mpr hlength), digitsValue_decimalDigits]
    by_cases hn : n < 0
    · rw [if_pos (decide_eq_true hn)]
      exact congrArg (fun m => Except.ok (Value.int m)) (by omega)
    · rw [if_neg (by simpa using hn)]
      exact congrArg (fun m => Except.ok (Value.int m)) (by omega)
  rw [readScalar, find?_constants_intText]
  dsimp only
  rw [readNumeral?_intText h]
  dsimp only
  rw [hvalue, Input.drop, List.drop_left]
  rfl

end Numbers

end LineJoin.Json
