import LineJoin.Encoding.Name
import LineJoin.Text.Small
import Mathlib

/-!
# The case of names

Names that differ in the case of ASCII letters only have one standard form, so bytes are decoded
alike under them. Names in ASCII are told apart by their small forms just where they differ in more
than case.
-/

namespace LineJoin.Encoding

/-- Decoding that takes no notice of the case of ASCII letters in a name. -/
def CaseBlind (decodeAs : String → Bytes → Attempt) : Prop :=
  ∀ a b, a.toLower = b.toLower → decodeAs a = decodeAs b

def isAscii (name : String) : Bool := name.toList.all fun c => c.toNat < 0x80

theorem toList_toLower (name : String) : name.toLower.toList = name.toList.map Char.toLower :=
  String.toList_map

theorem smallsOf_eq_toLower {c : Char} (h : c.toNat < 0x80) : smallsOf c = [c.toLower] := by
  simp [smallsOf, h]

theorem smalls_eq_toLower {name : String} (h : isAscii name = true) :
    smalls name = name.toLower := by
  have hchars : ∀ cs : List Char, (∀ c ∈ cs, c.toNat < 0x80) →
      cs.flatMap smallsOf = cs.map Char.toLower := by
    intro cs hcs
    induction cs with
    | nil => rfl
    | cons c rest ih =>
      obtain ⟨hc, hrest⟩ := List.forall_mem_cons.mp hcs
      rw [List.flatMap_cons, smallsOf_eq_toLower hc, ih hrest, List.map_cons,
        List.singleton_append]
  have hname : ∀ c ∈ name.toList, c.toNat < 0x80 := by simpa [isAscii] using h
  rw [smalls, hchars _ hname, ← toList_toLower, String.ofList_toList]

theorem isNameChar_toLower (c : Char) : isNameChar c.toLower = isNameChar c := by
  by_cases hupper : c.isUpper
  · have halpha : c.isAlpha := by simp [Char.isAlpha, hupper]
    simp [isNameChar, Char.isAlphanum, halpha]
  · rw [Char.toLower_eq_of_not_isUpper hupper]

theorem standardChars_toLower (pending : Bool) (cs : List Char) :
    standardChars pending (cs.map Char.toLower) = standardChars pending cs := by
  induction cs generalizing pending with
  | nil => rfl
  | cons c rest ih =>
    rw [List.map_cons, standardChars, standardChars, isNameChar_toLower,
      Char.toLower_toLower_eq_toLower, ih, ih]

theorem standardName_toLower (name : String) : standardName name.toLower = standardName name := by
  rw [standardName, standardName, toList_toLower, List.dropWhile_map, standardChars_toLower]
  simp only [Function.comp_def, isNameChar_toLower]

theorem caseBlind_decodeNamed : CaseBlind decodeNamed := by
  intro a b h
  have hname : standardName a = standardName b := by
    rw [← standardName_toLower a, h, standardName_toLower]
  funext data
  rw [decodeNamed, decodeNamed, hname]

end LineJoin.Encoding
