import LineJoin.Proofs.Pattern.Movement

/-!
# Replacing, place by place

`Scan p origin advance c out` describes replacing from the place `c` on as a walk over the text, in a
search that began at the origin: where no match starts the next character is kept, and where one
starts its first group is written and the walk goes on after it, with a new search. If all of each
match is replaced, `Pattern.keepFirstGroup` is such a walk, so what holds along a walk holds of
replacing.
-/

namespace LineJoin.Pattern

namespace Node

/-- The matches that start at a place. If `advance` is set, none that ends there. -/
def matchesAt (p : Node Nat) (origin : Nat) (advance : Bool) (c : Cursor) : List State :=
  (p.startWays (.begin origin c)).filter fun e => !(advance && e.cursor.index == c.index)

theorem mem_matchesAt {p : Node Nat} {origin : Nat} {advance : Bool} {c : Cursor} {e : State} :
    e ∈ p.matchesAt origin advance c ↔
      e ∈ p.startWays (.begin origin c) ∧ ¬ (advance = true ∧ e.cursor.index = c.index) := by
  cases advance <;> simp [matchesAt]

theorem matchesAt_takes {p : Node Nat} {origin : Nat} {advance : Bool} {c : Cursor} {e : State}
    (he : e ∈ p.matchesAt origin advance c) (hc : c.Placed) : ∃ t, c.Takes t e.cursor :=
  ways_takes (mem_matchesAt.mp he).1 hc

end Node

inductive Scan (p : Node Nat) : Nat → Bool → Cursor → List Char → Prop where
  | done {origin : Nat} {advance : Bool} {c : Cursor} (none : p.matchesAt origin advance c = [])
      (stop : c.after = []) : Scan p origin advance c []
  | skip {origin : Nat} {advance : Bool} {c d : Cursor} {x : Char} {out : List Char}
      (none : p.matchesAt origin advance c = []) (next : c.Takes [x] d)
      (rest : Scan p origin false d out) : Scan p origin advance c (x :: out)
  | hit {origin : Nat} {advance : Bool} {c : Cursor} {e : State} {others : List State}
      {out : List Char}
      (found : p.matchesAt origin advance c = e :: others)
      (rest : Scan p e.cursor.index (e.cursor.index == c.index) e.cursor out) :
      Scan p origin advance c ((e.captured? 1).getD [] ++ out)

theorem findSome?_guard (refused : State → Bool) (xs : List State) :
    (xs.findSome? fun e => if refused e then none else some e) =
      (xs.filter fun e => !refused e).head? := by
  induction xs with
  | nil => rfl
  | cons x xs ih =>
    cases hx : refused x with
    | false => simp [hx]
    | true => simpa [hx] using ih

/-- Searching looks at the place itself and then at the next one. -/
theorem search_eq (p : Node Nat) (origin : Nat) (advance : Bool) (c : Cursor) :
    search p origin advance c = match (p.matchesAt origin advance c).head? with
      | some e => some ⟨c, e⟩
      | none => match c.forward? with
        | some (_, d) => search p origin false d
        | none => none := by
  obtain ⟨before, after, index⟩ := c
  cases after with
  | nil =>
    rw [search, searchFrom, searchFrom.attempt, Node.start_eq_findSome?, findSome?_guard]
    rfl
  | cons x rest =>
    rw [search, searchFrom, searchFrom.attempt, Node.start_eq_findSome?, findSome?_guard]
    rfl

theorem search_of_match {p : Node Nat} {origin : Nat} {advance : Bool} {c : Cursor} {e : State}
    {others : List State} (h : p.matchesAt origin advance c = e :: others) :
    search p origin advance c = some ⟨c, e⟩ := by
  rw [search_eq, h]
  rfl

theorem search_of_end {p : Node Nat} {origin : Nat} {advance : Bool} {c : Cursor}
    (h : p.matchesAt origin advance c = []) (hc : c.after = []) : search p origin advance c = none := by
  obtain ⟨before, after, index⟩ := c
  subst hc
  rw [search_eq, h]
  rfl

theorem search_of_skip {p : Node Nat} {origin : Nat} {advance : Bool} {c d : Cursor} {x : Char}
    (h : p.matchesAt origin advance c = []) (hc : c.Takes [x] d) :
    search p origin advance c = search p origin false d := by
  obtain ⟨before, after, index⟩ := c
  obtain rfl : after = x :: d.after := hc.after
  have hd : d = ⟨x :: before, d.after, index + 1⟩ := hc.end_unique ⟨rfl, rfl, rfl⟩
  rw [search_eq, h, hd]
  rfl

/-- What a search finds starts further on and is a match there. -/
theorem search_found {p : Node Nat} {origin : Nat} {advance : Bool} {c : Cursor} {o : Occurrence}
    (h : search p origin advance c = some o) :
    (∃ t, c.Takes t o.start) ∧ o.stop ∈ p.startWays (.begin origin o.start) := by
  have hhere {advance : Bool} {c : Cursor} {e : State} {others : List State}
      (hm : p.matchesAt origin advance c = e :: others)
      (h : search p origin advance c = some o) :
      (∃ t, c.Takes t o.start) ∧ o.stop ∈ p.startWays (.begin origin o.start) := by
    obtain rfl := Option.some.inj ((search_of_match hm).symm.trans h)
    exact ⟨⟨[], .refl c⟩, (Node.mem_matchesAt.mp (hm ▸ List.mem_cons_self)).1⟩
  induction hn : c.after.length generalizing advance c with
  | zero =>
    have hc : c.after = [] := List.length_eq_zero_iff.mp hn
    cases hm : p.matchesAt origin advance c with
    | nil => rw [search_of_end hm hc] at h; cases h
    | cons e others => exact hhere hm h
  | succ n ih =>
    obtain ⟨x, rest, hx⟩ := List.exists_cons_of_length_eq_add_one hn
    obtain ⟨d, hd, hrest⟩ := Cursor.exists_takes (c := c) (t := [x]) hx
    cases hm : p.matchesAt origin advance c with
    | nil =>
      rw [search_of_skip hm hd] at h
      obtain ⟨⟨t, ht⟩, hstop⟩ := ih h (by rw [hrest]; rw [hx] at hn; exact Nat.succ.inj hn)
      exact ⟨⟨[x] ++ t, hd.trans ht⟩, hstop⟩
    | cons e others => exact hhere hm h

section WholeMatches

variable {p : Node Nat} (hp : p.setsStart = false)
include hp

theorem begins_eq {o : Occurrence} {origin : Nat}
    (h : o.stop ∈ p.startWays (.begin origin o.start)) : o.begins = o.start.index := by
  rw [Occurrence.begins, Node.startWays_kept hp _ _ h]
  rfl

theorem keepFirstFrom_of_skip {origin : Nat} {advance : Bool} {c d : Cursor} {x : Char}
    (h : p.matchesAt origin advance c = []) (hd : c.Takes [x] d) (fuel : Nat) :
    keepFirstFrom c (occurrencesFrom p (fuel + 1) origin advance c) =
      x :: keepFirstFrom d (occurrencesFrom p (fuel + 1) origin false d) := by
  rw [occurrencesFrom, occurrencesFrom, search_of_skip h hd]
  cases hs : search p origin false d with
  | none => exact hd.after
  | some o =>
    obtain ⟨⟨t, ht⟩, hstop⟩ := search_found hs
    simp only [keepFirstFrom, begins_eq hp hstop]
    rw [← (hd.trans ht).eq_take, ← ht.eq_take]
    rfl

theorem keepFirstFrom_of_match {origin : Nat} {advance : Bool} {c : Cursor} {e : State}
    {others : List State} (h : p.matchesAt origin advance c = e :: others) (fuel : Nat) :
    keepFirstFrom c (occurrencesFrom p (fuel + 1) origin advance c) =
      (e.captured? 1).getD [] ++ keepFirstFrom e.cursor
        (occurrencesFrom p fuel e.cursor.index (e.cursor.index == c.index) e.cursor) := by
  have hsearch := search_of_match h
  have hbegins := begins_eq hp (search_found hsearch).2
  rw [occurrencesFrom, hsearch]
  simp only [keepFirstFrom, Occurrence.isEmptyMatch, hbegins, Nat.sub_self, List.take_zero,
    List.nil_append, Bool.or_self]
  rw [Bool.beq_comm]
  rfl

end WholeMatches

/-- How far a walk still has to go: an empty match does not move it, but forbids another one. -/
def remaining (advance : Bool) (c : Cursor) : Nat :=
  2 * c.after.length + if advance then 0 else 1

theorem remaining_after_match {p : Node Nat} {origin : Nat} {advance : Bool} {c : Cursor}
    {e : State}
    (he : e ∈ p.matchesAt origin advance c) (hc : c.Placed) :
    remaining (e.cursor.index == c.index) e.cursor < remaining advance c := by
  obtain ⟨t, ht⟩ := Node.matchesAt_takes he hc
  have hlen := ht.length_eq
  have hindex := ht.index
  by_cases hi : e.cursor.index = c.index
  · have hadv : advance = false := by
      have hno := (Node.mem_matchesAt.mp he).2
      cases advance with
      | false => rfl
      | true => exact absurd ⟨rfl, hi⟩ hno
    have hnil : t.length = 0 := by omega
    simp only [remaining, hi, hadv, beq_self_eq_true, if_true, Bool.false_eq_true, if_false]
    omega
  · have hpos : 0 < t.length := by omega
    simp only [remaining, beq_eq_false_iff_ne.mpr hi, Bool.false_eq_true, if_false]
    omega

theorem scan_keepFirstFrom {p : Node Nat} (hp : p.setsStart = false) {origin : Nat} {advance : Bool}
    {c : Cursor} {fuel : Nat} (hc : c.Placed) (hfuel : remaining advance c < fuel) :
    Scan p origin advance c (keepFirstFrom c (occurrencesFrom p fuel origin advance c)) := by
  induction hn : remaining advance c using Nat.strongRecOn generalizing origin advance c fuel with
  | ind n ih =>
    obtain ⟨fuel, rfl⟩ : ∃ f, fuel = f + 1 := ⟨fuel - 1, by omega⟩
    cases hm : p.matchesAt origin advance c with
    | cons e others =>
      have he : e ∈ p.matchesAt origin advance c := by rw [hm]; exact List.mem_cons_self
      have hlt := remaining_after_match he hc
      obtain ⟨t, ht⟩ := Node.matchesAt_takes he hc
      rw [keepFirstFrom_of_match hp hm]
      exact .hit hm (ih _ (by omega) (ht.placed hc) (by omega) rfl)
    | nil =>
      cases ha : c.after with
      | nil =>
        rw [occurrencesFrom, search_of_end hm ha]
        simp only [keepFirstFrom, ha]
        exact .done hm ha
      | cons x rest =>
        obtain ⟨d, hd, hrest⟩ := Cursor.exists_takes (c := c) (t := [x]) ha
        have hlt : remaining false d < remaining advance c := by
          have hlen := hd.length_eq
          simp only [remaining, Bool.false_eq_true, if_false, hlen, List.length_singleton]
          omega
        rw [keepFirstFrom_of_skip hp hm hd]
        exact .skip hm hd (ih _ (by omega) (hd.placed hc) (by omega) rfl)

/-- Replacing in a text is a walk from its start, if all of each match is replaced. -/
theorem scan_keepFirstGroup {p : Pattern} (hp : p.root.setsStart = false) (text : List Char) :
    Scan p.root 0 false (.start text) (p.keepFirstGroup text) := by
  apply scan_keepFirstFrom hp (Cursor.placed_start text)
  simp only [remaining, Cursor.start, Bool.false_eq_true, if_false]
  omega

end LineJoin.Pattern
