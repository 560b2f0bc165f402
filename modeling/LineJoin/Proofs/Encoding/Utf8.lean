import LineJoin.Encoding.Unicode
import Mathlib.Data.List.Basic
import Mathlib.Data.List.TakeWhile

/-!
# Reading what is written in UTF-8

The bytes of a text are decoded as that text: a step takes the bytes of one character, whatever
follows them.
-/

namespace LineJoin.Encoding.Utf8

open String (utf8EncodeChar)

section Step

variable {n : Nat} {rest : Bytes}

theorem toNat_byte (h : n < 256) : (UInt8.ofNat n).toNat = n := by
  rw [UInt8.toNat_ofNat', Nat.mod_eq_of_lt h]

theorem formLength?_byte (h : n < 256) : formLength? (.ofNat n) =
    if n < 0x80 then some 1 else if n < 0xC2 then none else if n < 0xE0 then some 2
    else if n < 0xF0 then some 3 else if n < 0xF5 then some 4 else none := by
  simp only [formLength?, UInt8.lt_iff_toNat_lt, toNat_byte h, UInt8.toNat_ofNat]

theorem isTrail_byte (h : n < 64) : isTrail (.ofNat (n + 0x80)) = true := by
  simp only [isTrail, UInt8.le_iff_toNat_le, toNat_byte (show n + 0x80 < 256 by omega),
    Bool.and_eq_true, decide_eq_true_eq, UInt8.toNat_ofNat]
  omega

/-- Where a second byte may be any trailing byte, and where it may not. -/
structure Seconds (lead n : Nat) : Prop where
  least : lead = 0xE0 → 32 ≤ n
  below : lead = 0xED → n < 32
  longLeast : lead = 0xF0 → 16 ≤ n
  longBelow : lead = 0xF4 → n < 16

theorem secondRange_byte {lead : Nat} (hlead : lead < 256) (hn : n < 64) (h : Seconds lead n) :
    ((secondRange (.ofNat lead)).1 ≤ .ofNat (n + 0x80) &&
      .ofNat (n + 0x80) ≤ (secondRange (.ofNat lead)).2) = true := by
  obtain ⟨hleast, hbelow, hlongLeast, hlongBelow⟩ := h
  have hbyte : (UInt8.ofNat (n + 0x80)).toNat = n + 0x80 := toNat_byte (by omega)
  simp only [secondRange, ← UInt8.toNat_inj, toNat_byte hlead, UInt8.toNat_ofNat,
    Bool.and_eq_true, decide_eq_true_eq, UInt8.le_iff_toNat_le, hbyte]
  split
  · simp only [UInt8.toNat_ofNat]
    omega
  · split
    · simp only [UInt8.toNat_ofNat]
      omega
    · split
      · simp only [UInt8.toNat_ofNat]
        omega
      · split
        · simp only [UInt8.toNat_ofNat]
          omega
        · simp only [UInt8.toNat_ofNat]
          omega

/-- The byte that carries six bits of a character. -/
def trailByte (m : Nat) : UInt8 := .ofNat (m + 0x80)

theorem toNat_trailByte {m : Nat} (h : m < 64) : (trailByte m).toNat = m + 0x80 :=
  toNat_byte (by omega)

variable {lead : Nat}

theorem fitting_trail (trail : List Nat) (hlead : lead < 256) (hsecond : Seconds lead n)
    (htrail : ∀ m ∈ n :: trail, m < 64) (rest : Bytes) :
    fitting (.ofNat lead) (trailByte n :: (trail.map trailByte ++ rest)) (trail.length + 1) =
      trail.length + 1 := by
  obtain ⟨hn, htrail⟩ := List.forall_mem_cons.mp htrail
  have hall : ∀ b ∈ trail.map trailByte, isTrail b = true := by
    intro b hb
    obtain ⟨m, hm, rfl⟩ := List.mem_map.mp hb
    exact isTrail_byte (htrail m hm)
  have htake : (trail.map trailByte ++ rest).take trail.length = trail.map trailByte :=
    List.take_left' (List.length_map _)
  have hfits := secondRange_byte hlead hn hsecond
  rw [fitting, htake, List.takeWhile_eq_self_iff.mpr hall, List.length_map]
  exact (if_pos hfits).trans (Nat.add_comm _ _)

/-- A first byte for several bytes takes those that follow and carry the rest of the character. -/
theorem step_trail (trail : List Nat) (hlead : lead < 256)
    (hlength : formLength? (.ofNat lead) = some (trail.length + 2)) (hsecond : Seconds lead n)
    (htrail : ∀ m ∈ n :: trail, m < 64) (rest : Bytes) :
    step (.ofNat lead :: trailByte n :: (trail.map trailByte ++ rest)) =
      .char (Char.ofNat ((n :: trail).foldl (fun code m => code * 64 + m)
        (lead % twoTo (5 - trail.length)))) (trail.length + 2) := by
  have htake : (trailByte n :: (trail.map trailByte ++ rest)).take (trail.length + 1) =
      (n :: trail).map trailByte := by
    rw [List.take_succ_cons, List.take_left' (List.length_map _), List.map_cons]
  have hfold : ((n :: trail).map trailByte).foldl (fun code b => code * 64 + b.toNat % 64)
      (lead % twoTo (5 - trail.length)) =
      (n :: trail).foldl (fun code m => code * 64 + m) (lead % twoTo (5 - trail.length)) := by
    rw [List.foldl_map]
    refine List.foldl_ext _ _ _ fun code m hm => ?_
    have hsmall := htrail m hm
    rw [toNat_trailByte hsmall]
    omega
  have hpayload : payload (.ofNat lead) (trail.length + 2) = lead % twoTo (5 - trail.length) := by
    rw [payload, if_neg (by omega), toNat_byte hlead]
    congr 2
    omega
  rw [step, hlength]
  dsimp only
  rw [show trail.length + 2 - 1 = trail.length + 1 from rfl, fitting_trail trail hlead hsecond htrail,
    if_pos rfl, htake, hpayload, hfold]

end Step

/-- The bytes of a character are a first byte, and one for each six bits that this does not hold. -/
theorem encodeChar_eq (c : Char) : utf8EncodeChar c =
    if c.toNat ≤ 0x7F then [.ofNat c.toNat]
    else if c.toNat ≤ 0x7FF then
      .ofNat (c.toNat / 64 % 32 + 0xC0) :: [c.toNat % 64].map trailByte
    else if c.toNat ≤ 0xFFFF then
      .ofNat (c.toNat / 4096 % 16 + 0xE0) :: [c.toNat / 64 % 64, c.toNat % 64].map trailByte
    else .ofNat (c.toNat / 262144 % 8 + 0xF0) ::
      [c.toNat / 4096 % 64, c.toNat / 64 % 64, c.toNat % 64].map trailByte := rfl

/-- One step takes the bytes of a character. -/
theorem step_encodeChar (c : Char) (rest : Bytes) :
    step (utf8EncodeChar c ++ rest) = .char c (utf8EncodeChar c).length := by
  have hvalid : c.toNat < 0xD800 ∨ 0xDFFF < c.toNat ∧ c.toNat < 0x110000 := c.valid
  have hchar {code : Nat} (h : code = c.toNat) : Char.ofNat code = c := by
    rw [h, Char.ofNat_toNat]
  have hsix (k : Nat) : c.toNat / k % 64 < 64 := Nat.mod_lt _ (by decide)
  have hlast : c.toNat % 64 < 64 := Nat.mod_lt _ (by decide)
  rw [encodeChar_eq]
  split
  · have hlead : c.toNat < 256 := by omega
    rw [List.singleton_append, step, formLength?_byte hlead, if_pos (by omega)]
    change Step.char (Char.ofNat (UInt8.ofNat c.toNat).toNat) 1 = _
    rw [toNat_byte hlead, hchar rfl]
    rfl
  · split
    · have hlead : c.toNat / 64 % 32 + 0xC0 < 256 := by omega
      have hlength : formLength? (.ofNat (c.toNat / 64 % 32 + 0xC0)) = some 2 := by
        rw [formLength?_byte hlead, if_neg (by omega), if_neg (by omega), if_pos (by omega)]
      refine (step_trail [] hlead hlength ⟨by omega, by omega, by omega, by omega⟩
        (by simp [hlast]) rest).trans (congrArg (Step.char · 2) (hchar ?_))
      change (c.toNat / 64 % 32 + 0xC0) % 32 * 64 + c.toNat % 64 = c.toNat
      omega
    · split
      · have hlead : c.toNat / 4096 % 16 + 0xE0 < 256 := by omega
        have hlength : formLength? (.ofNat (c.toNat / 4096 % 16 + 0xE0)) = some 3 := by
          rw [formLength?_byte hlead, if_neg (by omega), if_neg (by omega), if_neg (by omega),
            if_pos (by omega)]
        refine (step_trail [c.toNat % 64] hlead hlength
          ⟨by omega, by omega, by omega, by omega⟩
          (by simp [hsix, hlast]) rest).trans (congrArg (Step.char · 3) (hchar ?_))
        change ((c.toNat / 4096 % 16 + 0xE0) % 16 * 64 + c.toNat / 64 % 64) * 64 + c.toNat % 64 =
          c.toNat
        omega
      · have hlead : c.toNat / 262144 % 8 + 0xF0 < 256 := by omega
        have hlength : formLength? (.ofNat (c.toNat / 262144 % 8 + 0xF0)) = some 4 := by
          rw [formLength?_byte hlead, if_neg (by omega), if_neg (by omega), if_neg (by omega),
            if_neg (by omega), if_pos (by omega)]
        refine (step_trail [c.toNat / 64 % 64, c.toNat % 64] hlead hlength
          ⟨by omega, by omega, by omega, by omega⟩
          (by simp [hsix, hlast]) rest).trans (congrArg (Step.char · 4) (hchar ?_))
        change (((c.toNat / 262144 % 8 + 0xF0) % 8 * 64 + c.toNat / 4096 % 64) * 64 +
          c.toNat / 64 % 64) * 64 + c.toNat % 64 = c.toNat
        omega

theorem encodeChar_ne_nil (c : Char) : utf8EncodeChar c ≠ [] := by
  rw [encodeChar_eq]
  split
  · exact List.cons_ne_nil _ _
  · split
    · exact List.cons_ne_nil _ _
    · split <;> exact List.cons_ne_nil _ _

theorem decodeSteps_encodeChar (c : Char) (fuel position : Nat) (rest : Bytes) :
    decodeSteps "utf-8" step (fuel + 1) position (utf8EncodeChar c ++ rest) = (do
      return c :: (← decodeSteps "utf-8" step fuel (position + (utf8EncodeChar c).length) rest)) := by
  have hstep := step_encodeChar c rest
  have hdrop : (utf8EncodeChar c ++ rest).drop (utf8EncodeChar c).length = rest := List.drop_left
  cases hbytes : utf8EncodeChar c ++ rest with
  | nil => exact absurd (List.append_eq_nil_iff.mp hbytes).1 (encodeChar_ne_nil c)
  | cons b more =>
    rw [hbytes] at hstep hdrop
    rw [decodeSteps, hstep]
    dsimp only
    rw [hdrop]

theorem decode_flatMap (cs : List Char) : decode (cs.flatMap utf8EncodeChar) = .ok cs := by
  suffices ∀ fuel position, cs.length ≤ fuel →
      decodeSteps "utf-8" step fuel position (cs.flatMap utf8EncodeChar) = .ok cs by
    refine this _ 0 (Nat.le_succ_of_le ?_)
    clear this
    induction cs with
    | nil => exact Nat.zero_le _
    | cons c rest ih =>
      have hpos := List.length_pos_iff.mpr (encodeChar_ne_nil c)
      rw [List.flatMap_cons, List.length_append, List.length_cons]
      omega
  induction cs with
  | nil =>
    intro fuel position _
    cases fuel <;> rfl
  | cons c rest ih =>
    intro fuel position hfuel
    cases fuel with
    | zero => cases hfuel
    | succ fuel =>
      rw [List.flatMap_cons, decodeSteps_encodeChar, ih fuel _ (Nat.le_of_succ_le_succ hfuel)]
      rfl

/-! ## Texts -/

theorem toList_loop (bytes : ByteArray) (i : Nat) (done : List UInt8) :
    ByteArray.toList.loop bytes i done = done.reverse ++ bytes.data.toList.drop i := by
  fun_induction ByteArray.toList.loop bytes i done with
  | case1 i done h ih =>
    have hi : i < bytes.data.toList.length := h
    have hget : bytes.get! i = bytes.data.toList[i] := by
      rw [ByteArray.get!, getElem!_pos bytes.data i h, Array.getElem_toList]
    rw [ih, List.drop_eq_getElem_cons hi, List.reverse_cons, List.append_assoc, hget]
    rfl
  | case2 i done h =>
    rw [List.drop_eq_nil_of_le (Nat.le_of_not_lt h), List.append_nil]

theorem toList_toUTF8 (s : String) : s.toUTF8.toList = s.toList.flatMap utf8EncodeChar := by
  rw [ByteArray.toList, toList_loop]
  change s.toByteArray.data.toList = _
  conv_lhs => rw [← String.ofList_toList (s := s), String.toByteArray_ofList]
  exact List.toList_data_toByteArray

theorem decode_toUTF8 (s : String) : decode s.toUTF8.toList = .ok s.toList := by
  rw [toList_toUTF8, decode_flatMap]

end LineJoin.Encoding.Utf8
