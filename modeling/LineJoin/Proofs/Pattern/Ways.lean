import LineJoin.Proofs.Pattern.Places

/-!
# The ways of matching

`Node.ways` lists every way in which a node can match from a state on, the preferred one first.
`Node.run` hands these to the rest of the match one after the other, so it finds the first way that
the rest accepts. All later statements about matching are about this list. The ways of a call are
given as `CallWays`.
-/

namespace LineJoin.Pattern

def iterateWays (step : State → List State) (greedy : Bool) :
    Nat → Nat → Option Nat → State → List State
  | 0, _, _, s => [s]
  | fuel + 1, least, most, s =>
    let again := (step s).flatMap fun e =>
      if e.cursor.index = s.cursor.index then [e]
      else iterateWays step greedy fuel (least - 1) (most.map (· - 1)) e
    if most = some 0 then [s]
    else if 0 < least then again
    else if greedy then again ++ [s]
    else s :: again

/-- The ways of calls. A call goes in the direction of the match and leaves groups as they were. -/
structure CallWays where
  ways : Nat → Bool → State → List State
  moves : ∀ n backward s, s.cursor.Placed → ∀ e ∈ ways n backward s,
    Cursor.Moves (fun _ => True) backward s.cursor e.cursor
  captures : ∀ n backward s, ∀ e ∈ ways n backward s, e.memory.captures = s.memory.captures

namespace Node

def ways (calls : CallWays) : Node Nat → Bool → State → List State
  | empty, _, s => [s]
  | never, _, _ => []
  | char ignoreCase test, backward, s =>
    match s.take? backward with
    | some (c, s') => if acceptsChar ignoreCase test c then [s'] else []
    | none => []
  | anchor a, _, s => if a.holds s.memory.origin s.cursor then [s] else []
  | seq a b, false, s => (a.ways calls false s).flatMap fun e => b.ways calls false e
  | seq a b, true, s => (b.ways calls true s).flatMap fun e => a.ways calls true e
  | alt a b, backward, s => a.ways calls backward s ++ b.ways calls backward s
  | group n body, backward, s =>
    (body.ways calls backward s).map fun e => e.capture n (s.cursor.between e.cursor)
  | atomic body, backward, s => (body.ways calls backward s).head?.toList
  | look behind positive body, _, s =>
    match positive, (body.ways calls behind s).head? with
    | true, some e => [{ s with memory := e.memory }]
    | false, none => [s]
    | _, _ => []
  | repeated greedy least most body, backward, s =>
    iterateWays (body.ways calls backward) greedy (s.room backward + 1) least most s
  | backref ignoreCase n, backward, s =>
    match s.captured? n with
    | some text =>
      (takeText ignoreCase backward (if backward then text.reverse else text) s).toList
    | none => []
  | ifGroup n yes no, backward, s =>
    match s.captured? n with
    | some _ => yes.ways calls backward s
    | none => no.ways calls backward s
  | call n, backward, s => calls.ways n backward s
  | keep, _, s => [s.keep]

end Node

theorem findSome?_flatMap {α β γ : Type} (f : α → List β) (k : β → Option γ) (xs : List α) :
    (xs.flatMap f).findSome? k = xs.findSome? fun x => (f x).findSome? k := by
  induction xs with
  | nil => rfl
  | cons x xs ih =>
    rw [List.flatMap_cons, List.findSome?_append, List.findSome?_cons, ih]
    cases (f x).findSome? k <;> rfl

theorem orElse_eq_or (first : Option State) (second : Unit → Option State) :
    orElse first second = first.or (second ()) := by
  cases first <;> rfl

theorem findSome?_some_eq_head? (xs : List State) : xs.findSome? some = xs.head? := by
  cases xs <;> rfl

/-- Repetition tries the rounds in the order in which `iterateWays` lists them. -/
theorem iterate_eq_findSome? (step : State → Rest → Option State) (stepWays : State → List State)
    (hstep : ∀ s k, step s k = (stepWays s).findSome? k) (greedy : Bool) (fuel least : Nat)
    (most : Option Nat) (s : State) (k : Rest) :
    iterate step greedy fuel least most s k =
      (iterateWays stepWays greedy fuel least most s).findSome? k := by
  induction fuel generalizing least most s with
  | zero => simp [iterate, iterateWays]
  | succ fuel ih =>
    have hagain : (step s fun e => if e.cursor.index = s.cursor.index then k e
        else iterate step greedy fuel (least - 1) (most.map (· - 1)) e k) =
        ((stepWays s).flatMap fun e => if e.cursor.index = s.cursor.index then [e]
          else iterateWays stepWays greedy fuel (least - 1) (most.map (· - 1)) e).findSome? k := by
      rw [hstep, findSome?_flatMap]
      congr 1
      funext e
      split
      · simp
      · exact ih _ _ e
    rw [iterate, iterateWays, hagain]
    split
    · simp
    · split
      · rfl
      · split
        · rw [orElse_eq_or, List.findSome?_append]
          simp
        · rw [orElse_eq_or, List.findSome?_cons]
          cases k s <;> rfl

/-- Matching finds the first way that the rest of the match accepts, if calls do. -/
theorem Node.run_eq_findSome? {calls : Calls} {callWays : CallWays}
    (hcalls : ∀ n backward s k, calls n backward s k = (callWays.ways n backward s).findSome? k)
    (n : Node Nat) (backward : Bool) (s : State) (k : Rest) :
    n.run calls backward s k = (n.ways callWays backward s).findSome? k := by
  induction n generalizing backward s k with
  | empty => simp [run, ways]
  | never => rfl
  | char ignoreCase test =>
    rw [run, ways]
    cases s.take? backward with
    | none => rfl
    | some taken =>
      dsimp only
      split <;> simp
  | anchor a =>
    rw [run, ways]
    split <;> simp
  | seq a b iha ihb =>
    cases backward with
    | false => simp only [run, ways, iha, ihb, findSome?_flatMap]
    | true => simp only [run, ways, iha, ihb, findSome?_flatMap]
  | alt a b iha ihb => rw [run, ways, orElse_eq_or, iha, ihb, List.findSome?_append]
  | group n body ih => rw [run, ways, ih, List.findSome?_map]; rfl
  | atomic body ih =>
    rw [run, ways, ih, findSome?_some_eq_head?]
    cases (body.ways callWays backward s).head? <;> simp
  | look behind positive body ih =>
    simp only [run, ways, ih, findSome?_some_eq_head?]
    cases positive <;> cases (body.ways callWays behind s).head? <;> simp
  | repeated greedy least most body ih =>
    rw [run, ways]
    exact iterate_eq_findSome? _ _ (fun s k => ih backward s k) greedy _ least most s k
  | backref ignoreCase n =>
    rw [run, ways]
    cases s.captured? n with
    | none => rfl
    | some text =>
      dsimp only
      cases takeText ignoreCase backward (if backward then text.reverse else text) s <;> simp
  | ifGroup n yes no ihy ihn =>
    rw [run, ways]
    cases s.captured? n with
    | none => exact ihn backward s k
    | some text => exact ihy backward s k
  | call n => exact hcalls n backward s k
  | keep => simp [run, ways]

end LineJoin.Pattern
