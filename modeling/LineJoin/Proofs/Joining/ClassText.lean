import Mathlib.Algebra.GroupWithZero.Nat
import LineJoin.Proofs.Pattern.Pieces
import LineJoin.Proofs.Pattern.References
import LineJoin.Joining.Units

/-!
# Reading rendered classes

A code point is written in four or eight capital hexadecimal digits, which are read back as the same
number, and a rendered class is read as one class with the properties and spans it was made of.
-/

namespace LineJoin

open Pattern

theorem hexValue?_digit {d : Nat} (h : d < 16) :
    Span.hexValue? (Nat.digitChar d).toUpper = some d := by
  have hall : ∀ d : Fin 16, Span.hexValue? (Nat.digitChar d.val).toUpper = some d.val := by
    decide
  exact hall ⟨d, h⟩

theorem hexNumber_concat (digits : List Char) {c : Char} {d : Nat}
    (h : Span.hexValue? c = some d) :
    Span.hexNumber (digits ++ [c]) = 16 * Span.hexNumber digits + d := by
  rw [Span.hexNumber, List.foldl_append, List.foldl_cons, List.foldl_nil, h]
  rfl

theorem hexNumber_zeros (k : Nat) (digits : List Char) :
    Span.hexNumber (List.replicate k '0' ++ digits) = Span.hexNumber digits := by
  induction k with
  | zero => rfl
  | succ k ih => exact ih

/-- Capital hexadecimal digits write the number they were made of. -/
theorem hexNumber_toDigits (n : Nat) :
    Span.hexNumber ((Nat.toDigits 16 n).map Char.toUpper) = n ∧
      ∀ c ∈ (Nat.toDigits 16 n).map Char.toUpper, (Span.hexValue? c).isSome = true := by
  induction n using Nat.strongRecOn with
  | ind n ih =>
    by_cases hn : n < 16
    · rw [Nat.toDigits_of_lt_base hn]
      simp only [List.map_cons, List.map_nil, List.mem_singleton, forall_eq, hexValue?_digit hn,
        Option.isSome_some, and_true]
      exact (hexNumber_concat [] (hexValue?_digit hn)).trans (Nat.zero_add n)
    · obtain ⟨hvalue, hdigits⟩ := ih (n / 16) (by omega)
      have hd := hexValue?_digit (d := n % 16) (Nat.mod_lt n (by omega))
      rw [Nat.toDigits_of_base_le (by omega) (by omega), List.map_append, List.map_cons,
        List.map_nil]
      refine ⟨?_, ?_⟩
      · rw [hexNumber_concat _ hd, hvalue]
        omega
      · intro c hc
        rcases List.mem_append.mp hc with hc | hc
        · exact hdigits c hc
        · rw [List.mem_singleton.mp hc, hd]
          rfl

namespace Units

theorem capitalHex_toList (width n : Nat) : (capitalHex width n).toList =
    List.replicate (width - (Nat.toDigits 16 n).length) '0' ++
      (Nat.toDigits 16 n).map Char.toUpper := by
  rw [capitalHex, String.toList_ofList, hexDigits, List.map_append, List.map_replicate]
  rfl

theorem hexNumber_capitalHex (width n : Nat) : Span.hexNumber (capitalHex width n).toList = n := by
  rw [capitalHex_toList, hexNumber_zeros]
  exact (hexNumber_toDigits n).1

theorem hexValue?_capitalHex (width n : Nat) :
    ∀ c ∈ (capitalHex width n).toList, (Span.hexValue? c).isSome = true := by
  intro c hc
  rw [capitalHex_toList] at hc
  rcases List.mem_append.mp hc with hc | hc
  · rw [(List.mem_replicate.mp hc).2]
    rfl
  · exact (hexNumber_toDigits n).2 c hc

theorem length_capitalHex {width n : Nat} (hwidth : 0 < width) (hn : n < 16 ^ width) :
    (capitalHex width n).toList.length = width := by
  have hlen := (Nat.length_toDigits_le_iff (b := 16) (n := n) (by omega) hwidth).mpr hn
  rw [capitalHex_toList, List.length_append, List.length_replicate, List.length_map]
  omega

/-- The letter and the digits of a code point. -/
theorem codeText_toList {n : Nat} (hn : n < 0x110000) :
    ∃ letter digits, (codeText n).toList = '\\' :: letter :: digits ∧
      (letter = 'u' ∧ digits.length = 4 ∨ letter = 'U' ∧ digits.length = 8) ∧
      (∀ c ∈ digits, (Span.hexValue? c).isSome = true) ∧ Span.hexNumber digits = n := by
  rw [codeText]
  split
  · refine ⟨'U', (capitalHex 8 n).toList, ?_, .inr ⟨rfl, ?_⟩, hexValue?_capitalHex 8 n,
      hexNumber_capitalHex 8 n⟩
    · rw [String.toList_append]
      rfl
    · exact length_capitalHex (by omega) (by omega)
  · refine ⟨'u', (capitalHex 4 n).toList, ?_, .inl ⟨rfl, ?_⟩, hexValue?_capitalHex 4 n,
      hexNumber_capitalHex 4 n⟩
    · rw [String.toList_append]
      rfl
    · exact length_capitalHex (by omega) (by omega)

/-- The member of a class that a span is read as. -/
def spanItem (s : Span) : SetItem :=
  if s.low = s.high then .code s.low else .span s.low s.high

theorem spanItem_holds (z : Span) (n : Nat) : (spanItem z).holds n = true ↔ z.contains n = true := by
  rw [spanItem, Span.contains_iff]
  split
  · rw [SetItem.holds, beq_iff_eq]
    omega
  · rw [SetItem.holds, Bool.and_eq_true, decide_eq_true_eq, decide_eq_true_eq]

theorem propertyText_toList (name : String) :
    (propertyText name).toList = '\\' :: 'p' :: '\x7b' :: (name.toList ++ ['\x7d']) := by
  rw [propertyText, String.toList_append, String.toList_append]
  rfl

variable [CharacterNames]

theorem readsCode_codeText {n : Nat} (hn : n < 0x110000) : ReadsCode (codeText n).toList n := by
  obtain ⟨letter, digits, htext, hletter, hdigits, hvalue⟩ := codeText_toList hn
  rw [htext, ← hvalue]
  exact readsCode_hex hletter hdigits (hvalue ▸ hn)

theorem readsMember_spanText {s : Span} (hs : s.low ≤ s.high) (hhigh : s.high < 0x110000) :
    ReadsMember (spanText s).toList (spanItem s) := by
  have hlow := readsCode_codeText (n := s.low) (by omega)
  rw [spanText, spanItem]
  by_cases heq : s.low = s.high
  · rw [if_pos heq, if_pos heq]
    exact readsMember_code hlow
  · obtain ⟨letter, digits, htext, -⟩ := codeText_toList hhigh
    have hread := readsCode_codeText hhigh
    rw [htext] at hread
    rw [if_neg heq, if_neg heq, String.toList_append, String.toList_append, htext,
      List.append_assoc]
    exact readsMember_span hlow hread (by decide) (by omega)

/-- A property whose name is found under the name it has in patterns. -/
def NamedProperty.Found (p : NamedProperty) : Prop := NamesProperty p.name.toList p.property

/-- The member of a class that a reference is read as. -/
def referenceItem (name : String) : SetItem :=
  match reference? name.toList with
  | some (p, positive) => .property p positive
  | none => .span 1 0

/-- The members of a class with their texts. -/
def classPieces (names : List String) (spans : List Span) : List (String × SetItem) :=
  names.map (fun name => (propertyText name, referenceItem name)) ++
    spans.map fun s => (spanText s, spanItem s)

def classItems (ps : List NamedProperty) (spans : List Span) : List SetItem :=
  ps.map (fun p => .property p.property true) ++ spans.map spanItem

theorem classPieces_items {ps : List NamedProperty} (hps : ∀ p ∈ ps, p.Found)
    (spans : List Span) :
    (classPieces (ps.map (·.name)) spans).map (·.2) = classItems ps spans := by
  have hitem : ∀ p ∈ ps, referenceItem p.name = .property p.property true := by
    intro p hp
    rw [referenceItem, reference?_eq_some_iff.mpr (.having (hps p hp))]
  rw [classPieces, classItems, List.map_append, List.map_map, List.map_map, List.map_map]
  exact congrArg (· ++ spans.map spanItem) (List.map_congr_left hitem)

theorem classPieces_read {names : List String} {spans : List Span}
    (hnames : ∀ name ∈ names, (reference? name.toList).isSome = true)
    (hspans : ∀ s ∈ spans, s.low ≤ s.high ∧ s.high < 0x110000) :
    ∀ p ∈ classPieces names spans, ReadsMember p.1.toList p.2 ∧ ∃ r, p.1.toList = '\\' :: r := by
  intro p hp
  rcases List.mem_append.mp hp with hp | hp
  · obtain ⟨name, hname, rfl⟩ := List.mem_map.mp hp
    obtain ⟨⟨p, positive⟩, hreference⟩ := Option.isSome_iff_exists.mp (hnames name hname)
    simp only [referenceItem, hreference, propertyText_toList]
    exact ⟨readsMember_reference hreference, _, rfl⟩
  · obtain ⟨s, hs, rfl⟩ := List.mem_map.mp hp
    obtain ⟨hle, hhigh⟩ := hspans s hs
    refine ⟨readsMember_spanText hle hhigh, ?_⟩
    obtain ⟨letter, digits, htext, -⟩ := codeText_toList (n := s.low) (by omega)
    change ∃ r, (spanText s).toList = '\\' :: r
    rw [spanText]
    split
    · exact ⟨_, htext⟩
    · rw [String.toList_append, String.toList_append, htext]
      exact ⟨_, rfl⟩

theorem readsMembers_flatMap {pieces : List (String × SetItem)} (hne : pieces ≠ [])
    (h : ∀ p ∈ pieces, ReadsMember p.1.toList p.2 ∧ ∃ r, p.1.toList = '\\' :: r) :
    ReadsMembers (pieces.flatMap (·.1.toList)) (pieces.map (·.2)) ∧
      (∃ r, pieces.flatMap (·.1.toList) = '\\' :: r) ∧
      pieces.length ≤ (pieces.flatMap (·.1.toList)).length := by
  induction pieces with
  | nil => exact absurd rfl hne
  | cons p pieces ih =>
    obtain ⟨⟨hp, r, hr⟩, h⟩ := List.forall_mem_cons.mp h
    by_cases hnil : pieces = []
    · subst hnil
      simp only [List.flatMap_cons, List.flatMap_nil, List.append_nil, List.map_cons,
        List.map_nil, List.length_cons, List.length_nil]
      refine ⟨readsMembers_single hp, ⟨r, hr⟩, ?_⟩
      rw [hr, List.length_cons]
      omega
    · obtain ⟨hmore, ⟨r', hr'⟩, hlen⟩ := ih hnil h
      rw [List.flatMap_cons, List.map_cons, List.length_cons]
      refine ⟨?_, ⟨_, by rw [hr, List.cons_append]⟩, ?_⟩
      · rw [hr'] at hmore ⊢
        exact readsMembers_cons hp hmore (by decide) (by decide)
      · rw [List.length_append, hr, List.length_cons]
        omega

/-- A rendered class is the texts of its members in brackets. -/
theorem classText_ordered (names : List String) {spans : List Span}
    (hspans : ∀ s ∈ spans, s.low ≤ s.high) :
    ∃ text, classText names spans = .ok text ∧
      text.toList = '[' :: ((classPieces names spans).flatMap (·.1.toList) ++ [']']) := by
  have hfind : spans.find? (fun s => decide (s.high < s.low)) = none := by
    rw [List.find?_eq_none]
    intro s hs
    have hle := hspans s hs
    simp
    omega
  refine ⟨_, by rw [classText, hfind], ?_⟩
  simp only [classPieces, String.toList_append, String.toList_join, List.flatMap_map,
    List.flatMap_append]
  simp

/-- The members of a rendered class are read back, if there are any. -/
theorem readsMembers_classPieces {names : List String} {spans : List Span}
    (hnames : ∀ name ∈ names, (reference? name.toList).isSome = true)
    (hspans : ∀ s ∈ spans, s.low ≤ s.high ∧ s.high < 0x110000)
    (hne : classPieces names spans ≠ []) :
    ∃ r, (classPieces names spans).flatMap (·.1.toList) = '\\' :: r ∧
      ReadsMembers ('\\' :: r) ((classPieces names spans).map (·.2)) ∧
        ((classPieces names spans).map (·.2)).length ≤ r.length + 1 := by
  obtain ⟨hmembers, ⟨r, hr⟩, hlen⟩ := readsMembers_flatMap hne (classPieces_read hnames hspans)
  rw [hr] at hmembers hlen
  rw [List.length_map]
  exact ⟨r, hr, hmembers, hlen⟩

/-- A rendered class is read as one class with its properties and spans. -/
theorem readsElement_classText {ps : List NamedProperty} {spans : List Span}
    (hps : ∀ p ∈ ps, p.Found) (hspans : ∀ s ∈ spans, s.low ≤ s.high ∧ s.high < 0x110000)
    (hne : classPieces (ps.map (·.name)) spans ≠ []) :
    ∃ text, classText (ps.map (·.name)) spans = .ok text ∧ text.toList ≠ [] ∧
      ReadsElement text.toList fun i => .char i (.set true (classItems ps spans)) := by
  have hnames : ∀ name ∈ ps.map (·.name), (reference? name.toList).isSome = true := by
    intro name hname
    obtain ⟨p, hp, rfl⟩ := List.mem_map.mp hname
    rw [reference?_eq_some_iff.mpr (.having (hps p hp))]
    rfl
  obtain ⟨text, htext, hlist⟩ := classText_ordered (ps.map (·.name)) fun s hs => (hspans s hs).1
  obtain ⟨r, hr, hmembers, hcount⟩ := readsMembers_classPieces hnames hspans hne
  rw [classPieces_items hps] at hmembers hcount
  rw [hr] at hlist
  refine ⟨text, htext, hlist ▸ List.cons_ne_nil _ _, ?_⟩
  rw [hlist]
  exact readsElement_set hmembers (by decide) hcount

end Units

end LineJoin
