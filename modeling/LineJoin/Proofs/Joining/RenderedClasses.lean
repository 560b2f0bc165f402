import LineJoin.Proofs.Joining.ClassRules

/-!
# What a rendered class matches

`classText` renders references to properties and spans of code points without anything between them.
`classText_listed` says that the text is read back as one bracket class, which matches a character
exactly if it meets one of the references or lies in one of the spans. Where a span is the wrong way
round nothing is rendered, and the first such span is reported.
-/

namespace LineJoin

open Pattern

namespace Units

/-- A code point meets one of the references or lies in one of the spans. -/
def Listed (names : List String) (spans : List Span) (c : Nat) : Prop :=
  (∃ name ∈ names, MeetsReference name.toList c) ∨ ∃ s ∈ spans, s.low ≤ c ∧ c ≤ s.high

variable {names : List String} {spans : List Span}

theorem referenceItem_holds (name : String) (c : Nat) :
    (referenceItem name).holds c = true ↔ MeetsReference name.toList c := by
  rw [referenceItem, MeetsReference]
  cases reference? name.toList with
  | none =>
    simp only [SetItem.holds, Bool.and_eq_true, decide_eq_true_eq, reduceCtorEq, false_and,
      exists_false, iff_false]
    omega
  | some found =>
    obtain ⟨p, positive⟩ := found
    constructor
    · intro h
      exact ⟨p, positive, rfl, beq_iff_eq.mp h⟩
    · rintro ⟨_, _, hfound, hholds⟩
      cases hfound
      exact beq_iff_eq.mpr hholds

/-- The members of a rendered class hold what is listed. -/
theorem accepts_classPieces (names : List String) (spans : List Span) (c : Nat) :
    (CharTest.set true ((classPieces names spans).map (·.2))).accepts c = true ↔
      Listed names spans c := by
  have hspan (s : Span) : (spanItem s).holds c = true ↔ s.low ≤ c ∧ c ≤ s.high := by
    rw [spanItem_holds, Span.contains_iff]
  simp only [CharTest.accepts, beq_true, classPieces, List.map_append, List.map_map, List.any_append,
    List.any_map, Bool.or_eq_true, List.any_eq_true, Function.comp_apply, referenceItem_holds, hspan,
    Listed]

theorem isClass_classText (hnames : ∀ name ∈ names, (reference? name.toList).isSome = true)
    (hspans : ∀ s ∈ spans, s.low ≤ s.high ∧ s.high < 0x110000) (hne : names ≠ [] ∨ spans ≠ []) :
    ∃ text, classText names spans = .ok text ∧
      IsClass text.toList (.set true ((classPieces names spans).map (·.2))) := by
  have hpieces : classPieces names spans ≠ [] := by
    simp only [classPieces, ne_eq, List.append_eq_nil_iff, List.map_eq_nil_iff, not_and_or]
    exact hne
  obtain ⟨text, htext, hlist⟩ := classText_ordered names fun s hs => (hspans s hs).1
  obtain ⟨r, hr, hmembers, hcount⟩ := readsMembers_classPieces hnames hspans hpieces
  rw [hr] at hlist
  exact ⟨text, htext, _, _, hlist, run_readSet hmembers (by decide) hcount rfl, rfl⟩

/-- The first span the wrong way round is reported. -/
theorem classText_refused (names : List String) (h : ∃ s ∈ spans, s.high < s.low) :
    ∃ before s after, spans = before ++ s :: after ∧ (∀ z ∈ before, z.low ≤ z.high) ∧
      s.high < s.low ∧ classText names spans = .error ⟨s⟩ := by
  have hsome : (spans.find? fun s => decide (s.high < s.low)).isSome = true := by
    simpa only [List.find?_isSome, decide_eq_true_eq] using h
  obtain ⟨s, hs⟩ := Option.isSome_iff_exists.mp hsome
  obtain ⟨hwrong, before, after, hsplit, hbefore⟩ := List.find?_eq_some_iff_append.mp hs
  refine ⟨before, s, after, hsplit, fun z hz => ?_, of_decide_eq_true hwrong, ?_⟩
  · have hz := hbefore z hz
    simp only [Bool.not_eq_true', decide_eq_false_iff_not] at hz
    omega
  · rw [classText, hs]

/-- A rendered class is read back as one class, which matches exactly what is listed; it is refused
if and only if some span is the wrong way round. -/
theorem classText_listed (names : List String) (spans : List Span)
    (hnames : ∀ name ∈ names, (reference? name.toList).isSome = true)
    (hspans : ∀ s ∈ spans, s.low ≤ 0x10FFFF ∧ s.high ≤ 0x10FFFF)
    (hne : names ≠ [] ∨ spans ≠ []) :
    ((∀ s ∈ spans, s.low ≤ s.high) →
      ∃ text test p, classText names spans = .ok text ∧ IsClass text.toList test ∧
        Pattern.read text.toList = .ok p ∧ p.root = .char false test ∧
          (∀ c, test.accepts c = true ↔ Listed names spans c) ∧
            ∀ t, p.root.matchesAll t = true ↔ ∃ c, t = [c] ∧ Listed names spans c.toNat) ∧
    ((∃ s ∈ spans, s.high < s.low) →
      ∃ before s after, spans = before ++ s :: after ∧ (∀ z ∈ before, z.low ≤ z.high) ∧
        s.high < s.low ∧ classText names spans = .error ⟨s⟩) := by
  refine ⟨fun hordered => ?_, classText_refused names⟩
  have hbounds : ∀ s ∈ spans, s.low ≤ s.high ∧ s.high < 0x110000 := fun s hs =>
    ⟨hordered s hs, Nat.lt_succ_of_le (hspans s hs).2⟩
  obtain ⟨text, htext, hclass⟩ := isClass_classText hnames hbounds hne
  obtain ⟨p, hread, hroot⟩ := read_class hclass
  refine ⟨text, _, p, htext, hclass, hread, hroot, accepts_classPieces names spans, fun t => ?_⟩
  rw [hroot, Node.matchesAll_char_iff]
  refine exists_congr fun c => ?_
  rw [and_comm, acceptsChar, if_neg Bool.false_ne_true, accepts_classPieces]

/-- Brackets, and the code points next to each other that are written in four and in eight digits. -/
theorem classText_listed_brackets :
    let names := ["Radical", "^Any"]
    let spans : List Span := [⟨0x5B, 0x5D⟩, ⟨0xFFFF, 0x10000⟩]
    (∃ text p, classText names spans = .ok text ∧ Pattern.read text.toList = .ok p ∧
      p.root.matchesAll [']'] = true ∧ p.root.matchesAll ['\u2E80'] = true ∧
        p.root.matchesAll ['^'] = false) ∧
      ∃ s, classText names (spans ++ [⟨0x3020, 0x3004⟩]) = .error ⟨s⟩ := by
  intro names spans
  have hradical : reference? "Radical".toList = some (.radical, true) := by decide +kernel
  have hany : reference? "^Any".toList = some (.any, false) := by decide +kernel
  have hnames : ∀ name ∈ names, (reference? name.toList).isSome = true :=
    List.forall_mem_cons.mpr ⟨Option.isSome_iff_exists.mpr ⟨_, hradical⟩,
      List.forall_mem_singleton.mpr (Option.isSome_iff_exists.mpr ⟨_, hany⟩)⟩
  obtain ⟨text, test, p, htext, -, hread, -, -, hmatches⟩ :=
    (classText_listed names spans hnames (by decide) (.inr (by decide))).1 (by decide)
  obtain ⟨before, s, after, -, -, -, hrefused⟩ :=
    (classText_listed names (spans ++ [⟨0x3020, 0x3004⟩]) hnames (by decide) (.inr (by decide))).2
      (by decide)
  refine ⟨⟨text, p, htext, hread, (hmatches _).mpr ⟨_, rfl, ?_⟩, (hmatches _).mpr ⟨_, rfl, ?_⟩, ?_⟩,
    s, hrefused⟩
  · exact .inr ⟨⟨0x5B, 0x5D⟩, by simp [spans], by decide⟩
  · exact .inl ⟨"Radical", by simp [names], .radical, true, hradical, by decide +kernel⟩
  · rw [Bool.eq_false_iff]
    intro hcaret
    obtain ⟨c, hc, hlisted⟩ := (hmatches _).mp hcaret
    obtain ⟨rfl, -⟩ := List.cons.inj hc
    rcases hlisted with ⟨name, hname, q, positive, hq, hholds⟩ | ⟨s, hs, hlow, hhigh⟩
    · rcases List.mem_pair.mp hname with rfl | rfl
      · rw [hradical] at hq
        cases hq
        revert hholds
        decide +kernel
      · rw [hany] at hq
        cases hq
        cases hholds
    · rcases List.mem_pair.mp hs with rfl | rfl
      · exact absurd hhigh (by decide)
      · exact absurd hlow (by decide)

end Units

end LineJoin
