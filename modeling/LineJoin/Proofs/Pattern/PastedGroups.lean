import LineJoin.Proofs.Pattern.PastedRuns

/-!
# Groups and references in a pasted reading

The groups of a pasted text are counted on from the ones before it. A name stands for the group that
it stands for alone, so a reference by name is open in both readings or in neither.
-/

namespace LineJoin.Pattern

open Reader ReadState

theorem lookup_shift (names : List (List Char × Nat)) (k : Nat) (name : List Char) :
    (names.map fun e => (e.1, e.2 + k)).lookup name = (names.lookup name).map (· + k) := by
  induction names with
  | nil => rfl
  | cons e names ih =>
    rw [List.map_cons, List.lookup_cons, List.lookup_cons, ih]
    cases name == e.1 <;> rfl

theorem any_shift (names : List (List Char × Nat)) (n k : Nat) :
    (names.map fun e => (e.1, e.2 + k)).any (·.2 == n + k) = names.any (·.2 == n) := by
  induction names with
  | nil => rfl
  | cons e names ih =>
    have hbeq : (e.2 + k == n + k) = (e.2 == n) := by
      rw [Bool.eq_iff_iff, beq_iff_eq, beq_iff_eq]
      omega
    rw [List.map_cons, List.any_cons, List.any_cons, ih, hbeq]

theorem freeNumber_shift (names : List (List Char × Nat)) (n k fuel : Nat) :
    freeNumber (names.map fun e => (e.1, e.2 + k)) (n + k) fuel = freeNumber names n fuel + k := by
  induction fuel generalizing n with
  | zero => rw [freeNumber, freeNumber, Nat.add_right_comm]
  | succ fuel ih =>
    rw [freeNumber, freeNumber, Nat.add_right_comm, any_shift]
    split
    · exact ih (n + 1)
    · rfl

theorem lt_freeNumber (names : List (List Char × Nat)) (n fuel : Nat) :
    n < freeNumber names n fuel := by
  induction fuel generalizing n with
  | zero => exact Nat.lt_succ_self n
  | succ fuel ih =>
    rw [freeNumber]
    split
    · exact Nat.lt_of_succ_lt (ih (n + 1))
    · exact Nat.lt_succ_self n

theorem mem_of_lookup {names : List (List Char × Nat)} {name : List Char} {n : Nat}
    (h : names.lookup name = some n) : ∃ e ∈ names, e.2 = n := by
  induction names with
  | nil => cases h
  | cons e names ih =>
    rw [List.lookup_cons] at h
    split at h
    · exact ⟨e, List.mem_cons_self, Option.some.inj h⟩
    · obtain ⟨e', he', hn⟩ := ih h
      exact ⟨e', List.mem_cons_of_mem _ he', hn⟩

/-- The state after a group has been opened. -/
def ReadState.opening (s : ReadState) (count n : Nat) (names : List (List Char × Nat)) : ReadState :=
  { s with groupCount := count, groupNames := names, openGroups := n :: s.openGroups,
           opened := n :: s.opened }

theorem run_openGroup_known {s : ReadState} {name : List Char} {n : Nat}
    (h : s.groupNames.lookup name = some n) :
    (openGroup (some name)).run s = .ok (n, s.opening s.groupCount n s.groupNames) := by
  rw [openGroup, run_bind_ok (run_get s)]
  simp only [h]
  rfl

theorem run_openGroup_new {s : ReadState} {name : List Char} (h : s.groupNames.lookup name = none)
    {n : Nat} (hn : freeNumber s.groupNames s.groupCount s.groupNames.length = n) :
    (openGroup (some name)).run s = .ok (n, s.opening n n ((name, n) :: s.groupNames)) := by
  rw [openGroup, run_bind_ok (run_get s)]
  simp only [h, hn]
  rfl

namespace Place

variable {P : Place} {s s' : ReadState}

theorem state_opening (s : ReadState) (count n : Nat) (names : List (List Char × Nat)) :
    P.state (s.opening count n names) = (P.state s).opening (count + P.groups) (n + P.groups)
      (names.map fun e => (e.1, e.2 + P.groups)) := rfl

theorem openGroup_agree (hs : s.Sound) (name : Option (List Char)) :
    Agree (openGroup name) (openGroup name) s (P.state s) fun a t b u =>
      b = a + P.groups ∧ u = P.state t ∧ 0 < a ∧ t.Sound ∧ t.rest = s.rest ∧
        t.openGroups = a :: s.openGroups := by
  have hopening {count n : Nat} {names : List (List Char × Nat)}
      (hnames : ∀ e ∈ names, 0 < e.2) : (s.opening count n names).Sound :=
    ⟨hs.numbers, hnames⟩
  cases name with
  | none =>
    have hcount : s.groupCount + P.groups + 1 = s.groupCount + 1 + P.groups := by omega
    refine ⟨_, s.opening (s.groupCount + 1) (s.groupCount + 1) s.groupNames, _,
      P.state (s.opening (s.groupCount + 1) (s.groupCount + 1) s.groupNames), rfl, ?_, rfl, rfl,
      Nat.succ_pos _, hopening hs.named, rfl, rfl⟩
    rw [state_opening, ← hcount]
    rfl
  | some name =>
    have hpasted : (P.state s).groupNames.lookup name =
        (s.groupNames.lookup name).map (· + P.groups) := lookup_shift _ _ _
    cases hname : s.groupNames.lookup name with
    | some n =>
      rw [hname] at hpasted
      obtain ⟨e, he, rfl⟩ := mem_of_lookup hname
      exact ⟨_, _, _, _, run_openGroup_known hname, run_openGroup_known hpasted, rfl, rfl,
        hs.named e he, hopening hs.named, rfl, rfl⟩
    | none =>
      rw [hname] at hpasted
      have hfree := freeNumber_shift s.groupNames s.groupCount P.groups s.groupNames.length
      have hlength : (P.state s).groupNames.length = s.groupNames.length := List.length_map _
      rw [← hlength] at hfree
      have hpos := Nat.zero_lt_of_lt (lt_freeNumber s.groupNames s.groupCount s.groupNames.length)
      rw [← hlength] at hpos
      exact ⟨_, _, _, _, run_openGroup_new hname (hlength ▸ rfl), run_openGroup_new hpasted hfree,
        rfl, rfl, hpos, hopening (List.forall_mem_cons.mpr ⟨hpos, hs.named⟩), rfl, rfl⟩

/-- The group that was opened last is closed. -/
theorem closeGroup_agree {n : Nat} {outer : List Nat} (hs : s.Sound)
    (hopen : s.openGroups = n :: outer) :
    Agree closeGroup closeGroup s (P.state s) fun _ t _ u =>
      u = P.state t ∧ t.Sound ∧ t.rest = s.rest ∧ t.openGroups = outer := by
  refine ⟨⟨⟩, { s with openGroups := outer }, ⟨⟩, P.state { s with openGroups := outer }, ?_, ?_,
    rfl, ⟨hs.numbers, hs.named⟩, rfl, rfl⟩
  · rw [closeGroup, run_modify, hopen]
    rfl
  · rw [closeGroup, run_modify]
    simp only [state, hopen, List.map_cons, List.cons_append, List.drop_succ_cons, List.drop_zero]

theorem isOpenGroup_agree (hP : P.Proper) (hs : s.Sound) {name : List Char}
    (hname : name.all isDigit = false) :
    Agree (isOpenGroup name) (isOpenGroup name) s (P.state s) (P.Went Eq s) := by
  have hnames : (P.state s).groupNames.lookup name =
      (s.groupNames.lookup name).map (· + P.groups) := lookup_shift _ _ _
  refine ⟨_, s, _, P.state s, rfl, rfl, ?_, rfl, hs.onward⟩
  simp only [hname, Bool.false_eq_true, if_false, hnames]
  cases hlookup : s.groupNames.lookup name with
  | none => rfl
  | some n =>
    obtain ⟨e, he, rfl⟩ := mem_of_lookup hlookup
    have hpos := hs.named e he
    rw [Option.map_some]
    rw [Bool.eq_iff_iff]
    simp only [state, List.contains_iff_mem, List.mem_append, List.mem_map]
    constructor
    · exact fun h => .inl ⟨e.2, h, rfl⟩
    · rintro (⟨m, hm, heq⟩ | h)
      · obtain rfl : m = e.2 := Nat.add_right_cancel heq
        exact hm
      · have hle := hP.outer _ h
        omega

theorem makeBackref_agree (hs : s.Sound) {name : List Char} (hname : name.all isDigit = false)
    (place : Nat) :
    Agree (makeBackref name place) (makeBackref name (place + P.offset)) s (P.state s)
      (P.Went P.CopiesAtom s) :=
  ⟨_, s, _, P.state s, rfl, rfl, copiesAtom_node ⟨rfl, hname⟩, rfl, hs.onward⟩

end Place

end LineJoin.Pattern
