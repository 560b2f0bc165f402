import LineJoin.Proofs.Joining.Break
import LineJoin.Proofs.Joining.UnitTree

/-!
# Units and case

The tests of a unit hold all variants of a character or none. A unit is therefore matched in the same
ways with and without regard to case, whatever flags a fragment sets for the whole pattern.
-/

namespace LineJoin

open Pattern

namespace Units

/-- A node that is matched in the same ways with and without regard to case. -/
def CaseFree (n : Bool → Node Nat) : Prop :=
  ∀ (calls : CallWays) (i : Bool), (n i).ways calls = (n false).ways calls

section CaseFree

variable {a b : Bool → Node Nat}

theorem caseFree_char {test : CharTest} (h : ∀ c, test.acceptsCaseless c = test.accepts c) :
    CaseFree fun i => .char i test := by
  intro calls i
  cases i with
  | false => rfl
  | true =>
    funext backward s
    simp only [Node.ways, acceptsChar, if_true, h]
    rfl

theorem caseFree_seq (ha : CaseFree a) (hb : CaseFree b) : CaseFree fun i => .seq (a i) (b i) := by
  intro calls i
  funext backward s
  cases backward with
  | false => rw [Node.ways, Node.ways, ha calls i, hb calls i]
  | true => rw [Node.ways, Node.ways, ha calls i, hb calls i]

theorem caseFree_repeated (ha : CaseFree a) (greedy : Bool) (least : Nat) (most : Option Nat) :
    CaseFree fun i => .repeated greedy least most (a i) := by
  intro calls i
  funext backward s
  rw [Node.ways, Node.ways, ha calls i]

theorem caseFree_branches {ns : List (Bool → Node Nat)} (h : ∀ n ∈ ns, CaseFree n) :
    CaseFree fun i => .branches (ns.map (· i)) := by
  intro calls i
  induction ns with
  | nil => rfl
  | cons n ns ih =>
    obtain ⟨hn, hns⟩ := List.forall_mem_cons.mp h
    cases ns with
    | nil => exact hn calls i
    | cons m ms =>
      funext backward s
      change (Node.alt (n i) (.branches (((m :: ms)).map (· i)))).ways calls backward s =
        (Node.alt (n false) (.branches ((m :: ms).map (· false)))).ways calls backward s
      rw [Node.ways, Node.ways, hn calls i, ih hns]

end CaseFree

theorem ignoresCase_of_table {holds : Nat → Bool} (table : List Span)
    (h : ∀ c, holds c = Span.covers table c) (hclear : letterless table = true) :
    IgnoresCase holds := by
  obtain rfl : holds = Span.covers table := funext h
  exact ignoresCase_covers hclear

theorem ignoresCase_items {items : List SetItem} (h : ∀ item ∈ items, IgnoresCase item.holds) :
    IgnoresCase fun c => items.any (·.holds c) := by
  induction items with
  | nil => exact ⟨fun _ _ _ _ _ _ => rfl, fun _ _ => rfl⟩
  | cons item items ih =>
    obtain ⟨hitem, hitems⟩ := List.forall_mem_cons.mp h
    have hitems := ih hitems
    constructor
    · intro r hr c k hc hk
      rw [List.any_cons, List.any_cons, hitem.runs r hr c k hc hk, hitems.runs r hr c k hc hk]
    · intro p hp
      rw [List.any_cons, List.any_cons, hitem.signs p hp, hitems.signs p hp]

theorem ignoresCase_span {s : Span} (h : letterless [s] = true) :
    IgnoresCase (spanItem s).holds := by
  refine ignoresCase_of_table [s] (fun c => ?_) h
  rw [Bool.eq_iff_iff, Span.covers_iff]
  simp only [List.mem_singleton, exists_eq_left, spanItem]
  split
  · rw [SetItem.holds, beq_iff_eq]
    omega
  · rw [SetItem.holds, Bool.and_eq_true, decide_eq_true_eq, decide_eq_true_eq]

theorem caseFree_items {items : List SetItem} (h : ∀ item ∈ items, IgnoresCase item.holds) :
    CaseFree fun i => .char i (.set true items) := by
  refine caseFree_char fun c => ?_
  rw [CharTest.acceptsCaseless, CharTest.accepts, (ignoresCase_items h).any_variant]

theorem caseFree_code {c : Nat} (h : letterless [Span.single c] = true) : CaseFree (codeNode c) :=
  caseFree_char fun v => caseVariants_contains (ignoresCase_covers h) v

theorem caseFree_property {p : Property} (h : CharTest.caseless p = p) :
    CaseFree (propertyNode p) := by
  refine caseFree_char fun c => ?_
  rw [CharTest.acceptsCaseless, h]
  rfl

theorem caseFree_class (x : Extensions) : CaseFree (classNode x) := by
  have htable (p : Property) (table : List Span) (hp : p.holds = Span.covers table)
      (h : letterless table = true) : IgnoresCase (SetItem.property p true).holds :=
    ignoresCase_of_table table (fun c => by rw [SetItem.holds, beq_true, hp]) h
  have hscript {s : Script} (hs : letterless s.extended = true) :
      IgnoresCase (SetItem.property (.scriptExtension s) true).holds := htable _ s.extended rfl hs
  have hradical : IgnoresCase (SetItem.property .radical true).holds :=
    htable _ CharTable.radical rfl (by decide +kernel)
  have hbase : ∀ p ∈ baseProperties, IgnoresCase (SetItem.property p.property true).holds := by
    simp only [baseProperties, List.forall_mem_cons, List.not_mem_nil, false_implies, implies_true,
      and_true]
    exact ⟨hscript (by decide +kernel), hscript (by decide +kernel), hscript (by decide +kernel),
      hscript (by decide +kernel), hscript (by decide +kernel), hradical⟩
  refine caseFree_items fun item hitem => ?_
  rcases List.mem_append.mp hitem with hitem | hitem
  · obtain ⟨p, hp, rfl⟩ := List.mem_map.mp hitem
    rcases List.mem_append.mp hp with hp | hp
    · exact hbase p hp
    · split at hp
      · exact List.mem_singleton.mp hp ▸ hscript (s := .hangul) (by decide +kernel)
      · cases hp
  · obtain ⟨s, hs, rfl⟩ := List.mem_map.mp hitem
    refine ignoresCase_span ?_
    rcases List.mem_append.mp hs with hs | hs
    · exact (show ∀ s ∈ baseSpans, letterless [s] = true by decide) s hs
    · split at hs
      · exact (show ∀ s ∈ squaredSpans, letterless [s] = true by decide) s hs
      · cases hs

theorem caseFree_emojiBranches : ∀ n ∈ (emojiBranches : List (Bool → Node Nat)), CaseFree n := by
  have hemoji : CaseFree (propertyNode .emoji) := caseFree_property rfl
  have hselector : CaseFree (codeNode 0xFE0F) := caseFree_code (by decide)
  have hpresentation : CaseFree presentationNode := caseFree_seq hemoji hselector
  have hmodifier : CaseFree modifierNode :=
    caseFree_seq (caseFree_property rfl) (caseFree_property rfl)
  have hkeys : CaseFree fun i => .char i (.set true keyItems) := by
    refine caseFree_items fun item hitem => ?_
    simp only [keyItems, List.mem_cons, List.not_mem_nil, or_false] at hitem
    rcases hitem with rfl | rfl | rfl
    · exact ignoresCase_span (s := ⟨0x30, 0x39⟩) (by decide)
    · exact ignoresCase_span (s := ⟨0x23, 0x23⟩) (by decide)
    · exact ignoresCase_span (s := ⟨0x2A, 0x2A⟩) (by decide)
  have htags : CaseFree fun i => .char i (.set true tagItems) := by
    refine caseFree_items fun item hitem => ?_
    obtain rfl := List.mem_singleton.mp hitem
    exact ignoresCase_span (s := ⟨0xE0020, 0xE007E⟩) (by decide)
  have helement : CaseFree elementNode := by
    refine caseFree_branches ?_
    simp only [elementBranches, List.forall_mem_cons, List.not_mem_nil, false_implies,
      implies_true, and_true]
    exact ⟨hemoji, hpresentation, hmodifier⟩
  have hkeycap : CaseFree keycapNode :=
    caseFree_seq hkeys (caseFree_seq hselector (caseFree_code (by decide)))
  have hflag : CaseFree flagNode := caseFree_seq (caseFree_property rfl) (caseFree_property rfl)
  have hjoined : CaseFree joinedNode :=
    caseFree_seq helement
      (caseFree_repeated (caseFree_seq (caseFree_code (by decide)) helement) true 1 none)
  have htagged : CaseFree fun i => .branches (taggedBranches.map (· i)) := by
    refine caseFree_branches ?_
    simp only [taggedBranches, List.forall_mem_cons, List.not_mem_nil, false_implies,
      implies_true, and_true]
    exact ⟨hemoji, hmodifier, hpresentation⟩
  have htag : CaseFree tagNode :=
    caseFree_seq htagged
      (caseFree_seq (caseFree_repeated htags true 1 none) (caseFree_code (by decide)))
  simp only [emojiBranches, List.forall_mem_cons, List.not_mem_nil, false_implies, implies_true,
    and_true]
  exact ⟨caseFree_property rfl, hemoji, hpresentation, hkeycap, hmodifier, hflag, hjoined, htag⟩

/-- A unit is matched in the same ways with and without regard to case. -/
theorem caseFree_node (x : Extensions) : CaseFree (node x) := by
  refine caseFree_branches fun n hn => ?_
  rcases List.mem_cons.mp hn with rfl | hn
  · exact caseFree_class x
  · split at hn
    · exact caseFree_emojiBranches n hn
    · cases hn

end Units

end LineJoin
