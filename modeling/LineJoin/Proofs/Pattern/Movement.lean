import LineJoin.Proofs.Pattern.Ways

/-!
# Where a match goes

Matching forwards takes a text and matching backwards gives one back, so the end of a match is a place
in the same text. A node takes only the kind of characters that its tests accept, a group that a node
does not contain keeps what it took before, and what is replaced begins at the start of the match
unless the node says otherwise.
-/

namespace LineJoin.Pattern

theorem State.eq_of_takes {c d : Cursor} {t : List Char} {e : State}
    {memory : Memory} (he : c.Takes t e.cursor) (hd : c.Takes t d)
    (hmemory : e.memory = memory) : e = ⟨d, memory⟩ := by
  cases e
  cases he.end_unique hd
  cases hmemory
  rfl

theorem State.take?_moves {kind : Char → Prop} {s s' : State} {backward : Bool} {c : Char}
    (h : s.take? backward = some (c, s')) (hs : s.cursor.Placed) (hk : kind c) :
    Cursor.Moves kind backward s.cursor s'.cursor := by
  rw [State.take?, Option.map_eq_some_iff] at h
  obtain ⟨⟨x, d⟩, hd, he⟩ := h
  obtain ⟨rfl, rfl⟩ := Prod.mk.inj he
  have hkind : ∀ y ∈ [x], kind y := fun y hy => List.mem_singleton.mp hy ▸ hk
  obtain ⟨⟨before, after, index⟩, memory⟩ := s
  cases backward with
  | false =>
    cases after with
    | nil => simp [Cursor.forward?] at hd
    | cons y rest =>
      simp only [Cursor.forward?, Bool.false_eq_true, if_false, Option.some.injEq,
        Prod.mk.injEq] at hd
      obtain ⟨rfl, rfl⟩ := hd
      exact ⟨[y], ⟨rfl, rfl, rfl⟩, hkind⟩
  | true =>
    cases before with
    | nil => simp [Cursor.backward?] at hd
    | cons y rest =>
      simp only [Cursor.backward?, if_true, Option.some.injEq, Prod.mk.injEq] at hd
      obtain ⟨rfl, rfl⟩ := hd
      have hi : index = rest.length + 1 := hs
      exact ⟨[y], ⟨rfl, rfl, by subst hi; rfl⟩, hkind⟩

theorem takeText_moves {kind : Char → Prop} (hk : ∀ c, kind c) {ignoreCase backward : Bool}
    {text : List Char} {s e : State} (h : takeText ignoreCase backward text s = some e)
    (hs : s.cursor.Placed) : Cursor.Moves kind backward s.cursor e.cursor := by
  induction text generalizing s with
  | nil =>
    obtain rfl : s = e := Option.some.inj h
    exact .refl _ _ _
  | cons c rest ih =>
    rw [takeText] at h
    cases ht : s.take? backward with
    | none => simp [ht] at h
    | some taken =>
      have hm := State.take?_moves ht hs (hk taken.1)
      simp only [ht] at h
      split at h
      · exact hm.trans (ih h (hm.placed hs))
      · cases h

/-- The ways of a repetition, without their order: it stops, or it goes round once more and stops
there if the round took nothing. -/
theorem mem_iterateWays_succ {step : State → List State} {greedy : Bool} {fuel least : Nat}
    {most : Option Nat} {s e : State} :
    e ∈ iterateWays step greedy (fuel + 1) least most s ↔
      ((most = some 0 ∨ least = 0) ∧ e = s) ∨
      (most ≠ some 0 ∧ ∃ m ∈ step s, if m.cursor.index = s.cursor.index then e = m
        else e ∈ iterateWays step greedy fuel (least - 1) (most.map (· - 1)) m) := by
  let again := (step s).flatMap fun m => if m.cursor.index = s.cursor.index then [m]
    else iterateWays step greedy fuel (least - 1) (most.map (· - 1)) m
  have hagain : e ∈ again ↔ ∃ m ∈ step s, if m.cursor.index = s.cursor.index then e = m
      else e ∈ iterateWays step greedy fuel (least - 1) (most.map (· - 1)) m := by
    refine List.mem_flatMap.trans (exists_congr fun m => and_congr_right fun _ => ?_)
    split <;> simp
  change (e ∈ if most = some 0 then [s] else if 0 < least then again
    else if greedy then again ++ [s] else s :: again) ↔ _
  rw [← hagain]
  by_cases hm : most = some 0
  · simp [hm]
  by_cases hl : 0 < least
  · have hne : least ≠ 0 := by omega
    simp [hm, hl, hne]
  · have hz : least = 0 := by omega
    cases greedy <;> simp [hm, hz, or_comm]

/-- What holds of every round, of none and of rounds in a row holds of a repetition. -/
theorem iterateWays_rel {R : State → State → Prop} (refl : ∀ s, R s s)
    (trans : ∀ {s m e}, R s m → R m e → R s e) {step : State → List State}
    (hstep : ∀ s, ∀ e ∈ step s, R s e) {greedy : Bool} {fuel least : Nat} {most : Option Nat}
    {s e : State} (he : e ∈ iterateWays step greedy fuel least most s) : R s e := by
  induction fuel generalizing least most s with
  | zero =>
    rw [iterateWays, List.mem_singleton] at he
    exact he ▸ refl s
  | succ fuel ih =>
    obtain ⟨-, rfl⟩ | ⟨-, m, hm, hrest⟩ := mem_iterateWays_succ.mp he
    · exact refl _
    · split at hrest
      · exact hrest ▸ hstep s m hm
      · exact trans (hstep s m hm) (ih hrest)

namespace Node

variable {calls : CallWays}

/-- Whatever the node takes is of one kind. -/
def TakesOnly (kind : Char → Prop) : Node Nat → Prop
  | empty | never | anchor _ | look _ _ _ | keep => True
  | char ignoreCase test => ∀ c, acceptsChar ignoreCase test c = true → kind c
  | seq a b | alt a b => a.TakesOnly kind ∧ b.TakesOnly kind
  | group _ body | atomic body | repeated _ _ _ body => body.TakesOnly kind
  | backref _ _ | call _ => ∀ c, kind c
  | ifGroup _ yes no => yes.TakesOnly kind ∧ no.TakesOnly kind

theorem takesOnly_true (n : Node Nat) : n.TakesOnly fun _ => True := by
  induction n <;> simp_all [TakesOnly]

/-- A match goes from its start in its direction. -/
theorem ways_moves {kind : Char → Prop} {n : Node Nat} (hn : n.TakesOnly kind) (backward : Bool)
    (s : State) (hs : s.cursor.Placed) :
    ∀ e ∈ n.ways calls backward s, Cursor.Moves kind backward s.cursor e.cursor := by
  induction n generalizing backward s with
  | empty => simp [ways, Cursor.Moves.refl]
  | never => simp [ways]
  | char ignoreCase test =>
    intro e he
    rw [ways] at he
    cases ht : s.take? backward with
    | none => simp [ht] at he
    | some taken =>
      simp only [ht] at he
      split at he
      · rename_i hc
        exact List.mem_singleton.mp he ▸ State.take?_moves ht hs (hn _ hc)
      · cases he
  | anchor a =>
    intro e he
    rw [ways] at he
    split at he
    · exact List.mem_singleton.mp he ▸ .refl _ _ _
    · cases he
  | seq a b iha ihb =>
    intro e he
    cases backward with
    | false =>
      obtain ⟨m, hm, he⟩ := List.mem_flatMap.mp he
      have hsm := iha hn.1 false s hs m hm
      exact hsm.trans (ihb hn.2 false m (hsm.placed hs) e he)
    | true =>
      obtain ⟨m, hm, he⟩ := List.mem_flatMap.mp he
      have hsm := ihb hn.2 true s hs m hm
      exact hsm.trans (iha hn.1 true m (hsm.placed hs) e he)
  | alt a b iha ihb =>
    intro e he
    rcases List.mem_append.mp he with he | he
    · exact iha hn.1 backward s hs e he
    · exact ihb hn.2 backward s hs e he
  | group n body ih =>
    intro e he
    obtain ⟨m, hm, rfl⟩ := List.mem_map.mp he
    exact ih hn backward s hs m hm
  | atomic body ih =>
    intro e he
    exact ih hn backward s hs e (List.mem_of_mem_head? (Option.mem_toList.mp he))
  | look behind positive body ih =>
    intro e he
    simp only [ways] at he
    split at he
    · exact List.mem_singleton.mp he ▸ .refl _ _ _
    · exact List.mem_singleton.mp he ▸ .refl _ _ _
    · cases he
  | repeated greedy least most body ih =>
    intro e he
    have hrel := iterateWays_rel (R := fun s e => s.cursor.Placed →
      Cursor.Moves kind backward s.cursor e.cursor) (fun s _ => .refl _ _ _)
      (fun h k hs => (h hs).trans (k ((h hs).placed hs)))
      (fun s e he hs => ih hn backward s hs e he) he
    exact hrel hs
  | backref ignoreCase n =>
    intro e he
    rw [ways] at he
    split at he
    · exact takeText_moves hn (Option.mem_toList.mp he) hs
    · cases he
  | ifGroup n yes no ihy ihn =>
    intro e he
    rw [ways] at he
    split at he
    · exact ihy hn.1 backward s hs e he
    · exact ihn hn.2 backward s hs e he
  | call n => exact fun e he => (calls.moves n backward s hs e he).any hn
  | keep => exact fun e he => List.mem_singleton.mp he ▸ .refl _ _ _

theorem ways_takes_only {kind : Char → Prop} {n : Node Nat} (hn : n.TakesOnly kind) {s e : State}
    (he : e ∈ n.ways calls false s) (hs : s.cursor.Placed) :
    ∃ t, s.cursor.Takes t e.cursor ∧ ∀ x ∈ t, kind x := by
  obtain ⟨t, ht, hk⟩ := ways_moves hn false s hs e he
  exact ⟨t, ht, hk⟩

/-- A match forwards takes the text between its ends. -/
theorem ways_takes {n : Node Nat} {s e : State} (he : e ∈ n.ways calls false s)
    (hs : s.cursor.Placed) : ∃ t, s.cursor.Takes t e.cursor := by
  obtain ⟨t, ht, -⟩ := ways_takes_only n.takesOnly_true he hs
  exact ⟨t, ht⟩

theorem mem_ways_seq {a b : Node Nat} {s e : State} :
    e ∈ (seq a b).ways calls false s ↔ ∃ m ∈ a.ways calls false s, e ∈ b.ways calls false m :=
  List.mem_flatMap

theorem mem_ways_alt {a b : Node Nat} {backward : Bool} {s e : State} :
    e ∈ (alt a b).ways calls backward s ↔ e ∈ a.ways calls backward s ∨ e ∈ b.ways calls backward s :=
  List.mem_append

theorem mem_ways_char {ignoreCase : Bool} {test : CharTest} {s e : State} :
    e ∈ (char ignoreCase test).ways calls false s ↔
      ∃ c, acceptsChar ignoreCase test c = true ∧ s.cursor.Takes [c] e.cursor ∧
        e.memory = s.memory := by
  obtain ⟨⟨before, after, index⟩, memory⟩ := s
  cases after with
  | nil =>
    constructor
    · simp [ways, State.take?, Cursor.forward?]
    · rintro ⟨c, -, ht, -⟩
      cases ht.after
  | cons x rest =>
    let c : Cursor := ⟨before, x :: rest, index⟩
    have hways : (char ignoreCase test).ways calls false ⟨c, memory⟩ =
        if acceptsChar ignoreCase test x then [⟨c.past x rest, memory⟩] else [] := rfl
    rw [hways]
    constructor
    · intro he
      split at he
      · rename_i hx
        obtain rfl := List.mem_singleton.mp he
        exact ⟨x, hx, Cursor.takes_past rfl, rfl⟩
      · cases he
    · rintro ⟨y, hy, ht, hmemory⟩
      obtain ⟨rfl, hrest⟩ := List.cons.inj ht.after
      rw [if_pos hy, State.eq_of_takes ht (Cursor.takes_past rfl) hmemory]
      exact List.mem_singleton_self _

theorem mem_ways_look {positive : Bool} {body : Node Nat} {backward : Bool} {s e : State}
    (he : e ∈ (look false positive body).ways calls backward s) :
    e.cursor = s.cursor ∧ (e.memory = s.memory ∨
      ∃ x ∈ body.ways calls false s, e.memory = x.memory) := by
  simp only [ways] at he
  split at he
  · rename_i x hx
    obtain rfl := List.mem_singleton.mp he
    exact ⟨rfl, .inr ⟨x, List.mem_of_mem_head? hx, rfl⟩⟩
  · obtain rfl := List.mem_singleton.mp he
    exact ⟨rfl, .inl rfl⟩
  · cases he

end Node

theorem State.memory_take? {s s' : State} {backward : Bool} {c : Char}
    (h : s.take? backward = some (c, s')) : s'.memory = s.memory := by
  rw [State.take?, Option.map_eq_some_iff] at h
  obtain ⟨d, -, he⟩ := h
  obtain ⟨-, rfl⟩ := Prod.mk.inj he
  rfl

theorem takeText_memory {ignoreCase backward : Bool} {text : List Char} {s e : State}
    (h : takeText ignoreCase backward text s = some e) : e.memory = s.memory := by
  induction text generalizing s with
  | nil => rw [Option.some.inj h]
  | cons c rest ih =>
    rw [takeText] at h
    cases ht : s.take? backward with
    | none => simp [ht] at h
    | some taken =>
      simp only [ht] at h
      split at h
      · rw [ih h, State.memory_take? ht]
      · cases h

theorem State.captured?_capture (s : State) (n g : Nat) (t : List Char) :
    (s.capture n t).captured? g = if g = n then some t else s.captured? g := by
  rw [captured?, capture, Memory.capture, List.lookup_cons, captured?]
  by_cases h : g = n
  · simp [h]
  · rw [if_neg h, beq_eq_false_iff_ne.mpr h]

namespace Node

variable {calls : CallWays}

section Memory

variable {α : Type} {f : Memory → α}

/-- Nothing that the node records, calls apart, has an effect on a part of what is known. -/
def Leaves (f : Memory → α) : Node Nat → Prop
  | group n body => (∀ m t, f (m.capture n t) = f m) ∧ body.Leaves f
  | keep => ∀ m i, f { m with kept := some i } = f m
  | seq a b | alt a b => a.Leaves f ∧ b.Leaves f
  | atomic body | look _ _ body | repeated _ _ _ body => body.Leaves f
  | ifGroup _ yes no => yes.Leaves f ∧ no.Leaves f
  | empty | never | char _ _ | anchor _ | backref _ _ | call _ => True

theorem ways_leaves
    (hcalls : ∀ n backward s, ∀ e ∈ calls.ways n backward s, f e.memory = f s.memory)
    {n : Node Nat} (hn : n.Leaves f) (backward : Bool) (s : State) :
    ∀ e ∈ n.ways calls backward s, f e.memory = f s.memory := by
  induction n generalizing backward s with
  | empty => simp [ways]
  | never => simp [ways]
  | char ignoreCase test =>
    intro e he
    rw [ways] at he
    cases ht : s.take? backward with
    | none => simp [ht] at he
    | some taken =>
      simp only [ht] at he
      split at he
      · rw [List.mem_singleton.mp he, State.memory_take? ht]
      · cases he
  | anchor a =>
    intro e he
    rw [ways] at he
    split at he
    · rw [List.mem_singleton.mp he]
    · cases he
  | seq a b iha ihb =>
    intro e he
    cases backward with
    | false =>
      obtain ⟨m, hm, he⟩ := List.mem_flatMap.mp he
      exact (ihb hn.2 false m e he).trans (iha hn.1 false s m hm)
    | true =>
      obtain ⟨m, hm, he⟩ := List.mem_flatMap.mp he
      exact (iha hn.1 true m e he).trans (ihb hn.2 true s m hm)
  | alt a b iha ihb =>
    intro e he
    rcases List.mem_append.mp he with he | he
    · exact iha hn.1 backward s e he
    · exact ihb hn.2 backward s e he
  | group m body ih =>
    intro e he
    obtain ⟨x, hx, rfl⟩ := List.mem_map.mp he
    exact (hn.1 _ _).trans (ih hn.2 backward s x hx)
  | atomic body ih =>
    intro e he
    exact ih hn backward s e (List.mem_of_mem_head? (Option.mem_toList.mp he))
  | look behind positive body ih =>
    intro e he
    simp only [ways] at he
    split at he
    · rename_i x hx
      rw [List.mem_singleton.mp he]
      exact ih hn behind s x (List.mem_of_mem_head? hx)
    · rw [List.mem_singleton.mp he]
    · cases he
  | repeated greedy least most body ih =>
    intro e he
    exact iterateWays_rel (R := fun s e => f e.memory = f s.memory) (fun _ => rfl)
      (fun h k => k.trans h) (fun s e he => ih hn backward s e he) he
  | backref ignoreCase n =>
    intro e he
    rw [ways] at he
    split at he
    · rw [takeText_memory (Option.mem_toList.mp he)]
    · cases he
  | ifGroup n yes no ihy ihn =>
    intro e he
    rw [ways] at he
    split at he
    · exact ihy hn.1 backward s e he
    · exact ihn hn.2 backward s e he
  | call n => exact hcalls n backward s
  | keep =>
    intro e he
    rw [List.mem_singleton.mp he]
    exact hn _ _

end Memory

/-- Whether a node contains the group with a number. -/
def setsGroup (g : Nat) : Node Nat → Bool
  | group n body => n == g || body.setsGroup g
  | seq a b | alt a b => a.setsGroup g || b.setsGroup g
  | atomic body | look _ _ body | repeated _ _ _ body => body.setsGroup g
  | ifGroup _ yes no => yes.setsGroup g || no.setsGroup g
  | empty | never | char _ _ | anchor _ | backref _ _ | call _ | keep => false

/-- Whether a node says where the text that is replaced begins. -/
def setsStart : Node Nat → Bool
  | keep => true
  | seq a b | alt a b => a.setsStart || b.setsStart
  | group _ body | atomic body | look _ _ body | repeated _ _ _ body => body.setsStart
  | ifGroup _ yes no => yes.setsStart || no.setsStart
  | empty | never | char _ _ | anchor _ | backref _ _ | call _ => false

theorem leaves_of_setsGroup {g : Nat} {n : Node Nat} (h : n.setsGroup g = false) :
    n.Leaves fun m => m.captures.lookup g := by
  induction n with
  | group n body ih =>
    rw [setsGroup, Bool.or_eq_false_iff, beq_eq_false_iff_ne] at h
    refine ⟨fun m t => ?_, ih h.2⟩
    exact (State.captured?_capture ⟨.start [], m⟩ n g t).trans (if_neg (Ne.symm h.1))
  | keep => exact fun _ _ => rfl
  | seq a b iha ihb =>
    rw [setsGroup, Bool.or_eq_false_iff] at h
    exact ⟨iha h.1, ihb h.2⟩
  | alt a b iha ihb =>
    rw [setsGroup, Bool.or_eq_false_iff] at h
    exact ⟨iha h.1, ihb h.2⟩
  | ifGroup n yes no ihy ihn =>
    rw [setsGroup, Bool.or_eq_false_iff] at h
    exact ⟨ihy h.1, ihn h.2⟩
  | atomic body ih => exact ih h
  | look behind positive body ih => exact ih h
  | repeated greedy least most body ih => exact ih h
  | _ => trivial

theorem leaves_of_setsStart {n : Node Nat} (h : n.setsStart = false) : n.Leaves Memory.kept := by
  induction n with
  | group n body ih => exact ⟨fun _ _ => rfl, ih h⟩
  | keep => cases h
  | seq a b iha ihb =>
    rw [setsStart, Bool.or_eq_false_iff] at h
    exact ⟨iha h.1, ihb h.2⟩
  | alt a b iha ihb =>
    rw [setsStart, Bool.or_eq_false_iff] at h
    exact ⟨iha h.1, ihb h.2⟩
  | ifGroup n yes no ihy ihn =>
    rw [setsStart, Bool.or_eq_false_iff] at h
    exact ⟨ihy h.1, ihn h.2⟩
  | atomic body ih => exact ih h
  | look behind positive body ih => exact ih h
  | repeated greedy least most body ih => exact ih h
  | _ => trivial

/-- A group keeps what it took as long as nothing captures it again. -/
theorem ways_captured? {n : Node Nat} {g : Nat} (hn : n.setsGroup g = false) (backward : Bool)
    (s : State) : ∀ e ∈ n.ways calls backward s, e.captured? g = s.captured? g :=
  ways_leaves (fun n b s e he => by rw [calls.captures n b s e he]) (leaves_of_setsGroup hn)
    backward s

/-- The calls in a pattern, within each other at most so many times. -/
def callWays (root : Node Nat) : Nat → CallWays
  | 0 => ⟨fun _ _ _ => [], fun _ _ _ _ _ he => (nomatch he), fun _ _ _ _ he => (nomatch he)⟩
  | depth + 1 =>
    { ways := fun n backward s =>
        ((root.callee n).ways (root.callWays depth) backward s.enter).map s.leave
      moves := by
        intro n backward s hs e he
        obtain ⟨m, hm, rfl⟩ := List.mem_map.mp he
        exact ways_moves (takesOnly_true _) backward s.enter hs m hm
      captures := by
        intro n backward s e he
        obtain ⟨m, -, rfl⟩ := List.mem_map.mp he
        rfl }

theorem calls_eq_findSome? (root : Node Nat) (depth n : Nat) (backward : Bool) (s : State)
    (k : Rest) :
    root.calls depth n backward s k = ((root.callWays depth).ways n backward s).findSome? k := by
  induction depth generalizing n backward s k with
  | zero => rfl
  | succ depth ih =>
    rw [calls, run_eq_findSome? ih, callWays, List.findSome?_map]
    rfl

/-- The ways of a whole pattern. -/
def startWays (root : Node Nat) (s : State) : List State :=
  root.ways (root.callWays callDepth) false s

theorem start_eq_findSome? (root : Node Nat) (s : State) (k : Rest) :
    root.start s k = (root.startWays s).findSome? k :=
  run_eq_findSome? (calls_eq_findSome? root callDepth) root false s k

theorem setsStart_groupBody? {n : Node Nat} (h : n.setsStart = false) {g : Nat} {body : Node Nat}
    (hbody : n.groupBody? g = some body) : body.setsStart = false := by
  induction n with
  | group m inner ih =>
    rw [groupBody?] at hbody
    split at hbody
    · exact Option.some.inj hbody ▸ h
    · exact ih h hbody
  | seq a b iha ihb =>
    rw [setsStart, Bool.or_eq_false_iff] at h
    rcases Option.or_eq_some_iff.mp hbody with hbody | ⟨-, hbody⟩
    · exact iha h.1 hbody
    · exact ihb h.2 hbody
  | alt a b iha ihb =>
    rw [setsStart, Bool.or_eq_false_iff] at h
    rcases Option.or_eq_some_iff.mp hbody with hbody | ⟨-, hbody⟩
    · exact iha h.1 hbody
    · exact ihb h.2 hbody
  | ifGroup n yes no ihy ihn =>
    rw [setsStart, Bool.or_eq_false_iff] at h
    rcases Option.or_eq_some_iff.mp hbody with hbody | ⟨-, hbody⟩
    · exact ihy h.1 hbody
    · exact ihn h.2 hbody
  | atomic body ih => exact ih h hbody
  | look behind positive body ih => exact ih h hbody
  | repeated greedy least most body ih => exact ih h hbody
  | _ => cases hbody

theorem setsStart_callee {root : Node Nat} (h : root.setsStart = false) (g : Nat) :
    (root.callee g).setsStart = false := by
  rw [callee]
  split
  · exact h
  · cases hbody : root.groupBody? g with
    | none => rfl
    | some body => exact setsStart_groupBody? h hbody

theorem callWays_kept {root : Node Nat} (h : root.setsStart = false) (depth n : Nat)
    (backward : Bool) (s : State) :
    ∀ e ∈ (root.callWays depth).ways n backward s, e.memory.kept = s.memory.kept := by
  induction depth generalizing n backward s with
  | zero => exact fun e he => nomatch he
  | succ depth ih =>
    intro e he
    obtain ⟨m, hm, rfl⟩ := List.mem_map.mp he
    exact ways_leaves ih (leaves_of_setsStart (setsStart_callee h n)) backward s.enter m hm

/-- A pattern without a mark for it replaces all of a match. -/
theorem startWays_kept {root : Node Nat} (h : root.setsStart = false) (s : State) :
    ∀ e ∈ root.startWays s, e.memory.kept = s.memory.kept :=
  ways_leaves (callWays_kept h callDepth) (leaves_of_setsStart h) false s

end Node

end LineJoin.Pattern
