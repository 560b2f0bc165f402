import LineJoin.Chars.Variant

/-!
# Sets that ignore case

A set of characters ignores case if it holds a letter exactly if it holds the letter's capital.
`IgnoresCase.variant` says that it then holds all variants of a letter or none. Whether the
characters of a table ignore case is decided run by run.
-/

namespace LineJoin

namespace Span

def within (s t : Span) : Bool := t.low ≤ s.low && s.high ≤ t.high

def apart (s t : Span) : Bool := s.high < t.low || t.high < s.low

theorem contains_of_within {s t : Span} {c : Nat} (h : s.within t = true)
    (hc : s.contains c = true) : t.contains c = true := by
  rw [within, Bool.and_eq_true, decide_eq_true_eq, decide_eq_true_eq] at h
  rw [contains_iff] at hc ⊢
  omega

theorem not_contains_of_apart {s t : Span} {c : Nat} (h : s.apart t = true)
    (hc : s.contains c = true) : t.contains c = false := by
  rw [apart, Bool.or_eq_true, decide_eq_true_eq, decide_eq_true_eq] at h
  rw [contains_iff] at hc
  rw [← Bool.not_eq_true, contains_iff]
  omega

theorem covers_of_within {s t : Span} {table : List Span} {c : Nat} (ht : t ∈ table)
    (h : s.within t = true) (hc : s.contains c = true) : covers table c = true :=
  List.any_eq_true.mpr ⟨t, ht, contains_of_within h hc⟩

theorem not_covers_of_apart {s : Span} {table : List Span} {c : Nat}
    (h : table.all s.apart = true) (hc : s.contains c = true) : covers table c = false := by
  rw [covers, List.any_eq_false]
  intro t ht
  rw [Bool.not_eq_true]
  exact not_contains_of_apart (List.all_eq_true.mp h t ht) hc

end Span

namespace CapitalRun

/-- The capitals of the letters of a run. -/
def capitals (r : CapitalRun) : Span := ⟨r.capital, r.capital + (r.span.high - r.span.low)⟩

theorem contains_of_capital? {r : CapitalRun} {c k : Nat} (h : r.capital? c = some k) :
    r.span.contains c = true ∧ r.capitals.contains k = true := by
  rw [capital?] at h
  split at h
  · rename_i hc
    have hspan := (Bool.and_eq_true_iff.mp hc).1
    have hk := Option.some.inj h
    refine ⟨hspan, ?_⟩
    rw [Span.contains_iff] at hspan
    rw [Span.contains_iff]
    change r.capital ≤ k ∧ k ≤ r.capital + (r.span.high - r.span.low)
    omega
  · cases h

theorem contains_of_letterOf? {r : CapitalRun} {c k : Nat} (h : r.letterOf? k = some c) :
    r.span.contains c = true ∧ r.capitals.contains k = true := by
  rw [letterOf?] at h
  split at h
  · dsimp only at h
    split at h
    · rename_i hk
      exact contains_of_capital? (Option.some.inj h ▸ beq_iff_eq.mp hk)
    · cases h
  · cases h

end CapitalRun

structure IgnoresCase (holds : Nat → Bool) : Prop where
  runs : ∀ r ∈ capitalRuns, ∀ c k, r.span.contains c = true → r.capitals.contains k = true →
    holds c = holds k
  signs : ∀ p ∈ signVariants, holds p.1 = holds p.2

namespace IgnoresCase

variable {holds : Nat → Bool}

theorem capitalOf (h : IgnoresCase holds) (c : Nat) : holds (capitalOf c) = holds c := by
  rw [LineJoin.capitalOf]
  cases hc : capitalRuns.findSome? (·.capital? c) with
  | none => rfl
  | some k =>
    obtain ⟨r, hr, hk⟩ := List.exists_of_findSome?_eq_some hc
    obtain ⟨hspan, hcapital⟩ := CapitalRun.contains_of_capital? hk
    exact (h.runs r hr c k hspan hcapital).symm

theorem variantClass (h : IgnoresCase holds) (c : Nat) : holds (variantClass c) = holds c := by
  rw [LineJoin.variantClass]
  cases hc : signVariants.lookup c with
  | none => exact h.capitalOf c
  | some k =>
    have hk : (c, k) ∈ signVariants := by
      obtain ⟨before, after, hsplit, -⟩ := List.lookup_eq_some_iff.mp hc
      rw [hsplit]
      exact List.mem_append_right _ List.mem_cons_self
    exact (h.signs _ hk).symm

theorem variant (h : IgnoresCase holds) {c v : Nat} (hv : v ∈ caseVariants c) :
    holds v = holds c := by
  have hk := h.variantClass c
  rw [caseVariants, List.mem_eraseDups] at hv
  rcases List.mem_append.mp hv with hv | hv
  · rcases List.mem_cons.mp hv with rfl | hv
    · rfl
    · rcases List.mem_cons.mp hv with rfl | hv
      · exact hk
      · obtain ⟨r, hr, hl⟩ := List.mem_filterMap.mp hv
        obtain ⟨hspan, hcapital⟩ := CapitalRun.contains_of_letterOf? hl
        exact (h.runs r hr _ _ hspan hcapital).trans hk
  · obtain ⟨p, hp, rfl⟩ := List.mem_map.mp hv
    obtain ⟨hp, he⟩ := List.mem_filter.mp hp
    exact (h.signs p hp).trans (beq_iff_eq.mp he ▸ hk)

theorem mem_caseVariants_self (c : Nat) : c ∈ caseVariants c := by
  rw [caseVariants, List.mem_eraseDups]
  exact List.mem_append_left _ List.mem_cons_self

theorem any_variant (h : IgnoresCase holds) (c : Nat) : (caseVariants c).any holds = holds c := by
  cases hc : holds c with
  | true => exact List.any_eq_true.mpr ⟨c, mem_caseVariants_self c, hc⟩
  | false =>
    rw [List.any_eq_false]
    intro v hv
    rw [h.variant hv, hc]
    exact Bool.false_ne_true

end IgnoresCase

namespace Span

theorem words_ofList_cons (line : List Char) (lines : List String) :
    words (String.ofList line :: lines) =
      (cutAt ' ' line).filter (!·.isEmpty) ++ words lines := by
  simp [words]

end Span

/-- Where the letters with a capital and the capitals stand, those of full width apart. -/
def letterZones : List Span :=
  [⟨0x3A, 0xB6⟩, ⟨0xB8, 0x2C6⟩, ⟨0x324, 0x10FF⟩, ⟨0x1200, 0x200C⟩, ⟨0x20E4, 0x2E7F⟩,
    ⟨0xA4C7, 0xA6FF⟩, ⟨0xA708, 0xA95F⟩, ⟨0xA97D, 0xABFF⟩, ⟨0xFFE7, 0x16FE1⟩, ⟨0x1D372, 0x1F1FF⟩]

/-- The forms of full width of the signs and letters of ASCII. -/
def fullWidth : Span := ⟨0xFF01, 0xFF60⟩

theorem capitalRuns_zones : (capitalRuns.all fun r =>
    letterZones.any r.span.within && letterZones.any r.capitals.within ||
      r.span.within fullWidth && r.capitals.within fullWidth) = true := by
  rw [capitalRuns]
  repeat rw [Span.words_ofList_cons]
  decide +kernel

theorem signVariants_zones : (signVariants.all fun p =>
    Span.covers letterZones p.1 && Span.covers letterZones p.2) = true := by decide

/-- A table without letters, those of full width apart, of which it holds all or none. -/
def letterless (table : List Span) : Bool :=
  (letterZones.all fun z => table.all z.apart) &&
    (table.any fullWidth.within || table.all fullWidth.apart)

theorem ignoresCase_covers {table : List Span} (h : letterless table = true) :
    IgnoresCase (Span.covers table) := by
  obtain ⟨hzones, hwide⟩ := Bool.and_eq_true_iff.mp h
  have hclear (s : Span) (hs : letterZones.any s.within = true) (c : Nat)
      (hc : s.contains c = true) : Span.covers table c = false := by
    obtain ⟨z, hz, hw⟩ := List.any_eq_true.mp hs
    exact Span.not_covers_of_apart (List.all_eq_true.mp hzones z hz)
      (Span.contains_of_within hw hc)
  have hconst (c k : Nat) (hc : fullWidth.contains c = true) (hk : fullWidth.contains k = true) :
      Span.covers table c = Span.covers table k := by
    rcases Bool.or_eq_true_iff.mp hwide with hin | hout
    · obtain ⟨t, ht, hw⟩ := List.any_eq_true.mp hin
      rw [Span.covers_of_within ht hw hc, Span.covers_of_within ht hw hk]
    · rw [Span.not_covers_of_apart hout hc, Span.not_covers_of_apart hout hk]
  constructor
  · intro r hr c k hc hk
    rcases Bool.or_eq_true_iff.mp (List.all_eq_true.mp capitalRuns_zones r hr) with h | h
    · obtain ⟨hspan, hcapital⟩ := Bool.and_eq_true_iff.mp h
      rw [hclear r.span hspan c hc, hclear r.capitals hcapital k hk]
    · obtain ⟨hspan, hcapital⟩ := Bool.and_eq_true_iff.mp h
      exact hconst c k (Span.contains_of_within hspan hc) (Span.contains_of_within hcapital hk)
  · intro p hp
    have hout (c : Nat) (hc : Span.covers letterZones c = true) : Span.covers table c = false := by
      obtain ⟨z, hz, hw⟩ := List.any_eq_true.mp hc
      exact Span.not_covers_of_apart (List.all_eq_true.mp hzones z hz) hw
    obtain ⟨h1, h2⟩ := Bool.and_eq_true_iff.mp (List.all_eq_true.mp signVariants_zones p hp)
    rw [hout _ h1, hout _ h2]

end LineJoin
