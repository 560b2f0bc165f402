import LineJoin.Proofs.Pattern.Movement

/-!
# The texts of a plain node

A plain node looks at nothing but the characters it takes: it has no groups, references, anchors or
look-arounds and is not atomic. `Node.Matches` says which texts such a node takes. From a place on
its ways are exactly the texts of the node that stand there.
-/

namespace LineJoin.Pattern

/-- Taking a text and nothing else. -/
structure State.Takes (s : State) (t : List Char) (e : State) : Prop where
  cursor : s.cursor.Takes t e.cursor
  memory : e.memory = s.memory

namespace State.Takes

variable {s m e : State} {t u : List Char}

theorem refl (s : State) : s.Takes [] s := ⟨.refl _, rfl⟩

theorem trans (h : s.Takes t m) (k : m.Takes u e) : s.Takes (t ++ u) e :=
  ⟨h.cursor.trans k.cursor, k.memory.trans h.memory⟩

theorem eq_of_nil (h : s.Takes [] e) : e = s :=
  State.eq_of_takes h.cursor (.refl _) h.memory

/-- The state between two parts of a text. -/
theorem split (h : s.Takes (t ++ u) e) : ∃ m, s.Takes t m ∧ m.Takes u e := by
  have ha := h.cursor.after
  rw [List.append_assoc] at ha
  obtain ⟨d, hd, hrest⟩ := Cursor.exists_takes ha
  have hb := h.cursor.before
  have hi := h.cursor.index
  refine ⟨⟨d, s.memory⟩, ⟨hd, rfl⟩, ⟨hrest, ?_, ?_⟩, h.memory⟩
  · rw [hb, hd.before, List.reverse_append, List.append_assoc]
  · rw [hi, hd.index, List.length_append, Nat.add_assoc]

theorem index_eq_iff (h : s.Takes t e) : e.cursor.index = s.cursor.index ↔ t = [] :=
  h.cursor.nil_iff.symm

end State.Takes

theorem State.exists_takes {s : State} {t r : List Char} (h : s.cursor.after = t ++ r) :
    ∃ e : State, s.Takes t e ∧ e.cursor.after = r := by
  obtain ⟨d, hd, hr⟩ := Cursor.exists_takes h
  exact ⟨⟨d, s.memory⟩, ⟨hd, rfl⟩, hr⟩

namespace Node

def Plain : Node Nat → Prop
  | empty | never | char _ _ => True
  | seq a b | alt a b => a.Plain ∧ b.Plain
  | repeated _ _ _ body => body.Plain
  | anchor _ | group _ _ | atomic _ | look _ _ _ | backref _ _ | ifGroup _ _ _ | call _
  | keep => False

theorem Plain.setsStart {n : Node Nat} (h : n.Plain) : n.setsStart = false := by
  induction n with
  | seq a b iha ihb => rw [Node.setsStart, iha h.1, ihb h.2, Bool.or_false]
  | alt a b iha ihb => rw [Node.setsStart, iha h.1, ihb h.2, Bool.or_false]
  | repeated greedy least most body ih => exact ih h
  | empty => rfl
  | never => rfl
  | char => rfl
  | _ => cases h

/-- The texts of a plain node. A round of a repetition that takes nothing is the last one, even if
there were to be more. -/
inductive Matches : Node Nat → List Char → Prop where
  | empty : Matches .empty []
  | char {ignoreCase : Bool} {test : CharTest} {c : Char}
      (h : acceptsChar ignoreCase test c = true) : Matches (.char ignoreCase test) [c]
  | seq {a b : Node Nat} {t u : List Char} (first : Matches a t) (second : Matches b u) :
      Matches (.seq a b) (t ++ u)
  | left {a b : Node Nat} {t : List Char} (h : Matches a t) : Matches (.alt a b) t
  | right {a b : Node Nat} {t : List Char} (h : Matches b t) : Matches (.alt a b) t
  | stop {greedy : Bool} {least : Nat} {most : Option Nat} {body : Node Nat}
      (h : most = some 0 ∨ least = 0) : Matches (.repeated greedy least most body) []
  | idle {greedy : Bool} {least : Nat} {most : Option Nat} {body : Node Nat}
      (h : most ≠ some 0) (last : Matches body []) :
      Matches (.repeated greedy least most body) []
  | round {greedy : Bool} {least : Nat} {most : Option Nat} {body : Node Nat} {t u : List Char}
      (h : most ≠ some 0) (first : Matches body t) (taken : t ≠ [])
      (rest : Matches (.repeated greedy (least - 1) (most.map (· - 1)) body) u) :
      Matches (.repeated greedy least most body) (t ++ u)

variable {calls : CallWays} {n a b body : Node Nat} {t : List Char}

theorem matches_empty_iff : Matches .empty t ↔ t = [] := by
  constructor
  · intro h
    cases h
    rfl
  · rintro rfl
    exact .empty

theorem matches_char_iff {ignoreCase : Bool} {test : CharTest} :
    Matches (.char ignoreCase test) t ↔ ∃ c, acceptsChar ignoreCase test c = true ∧ t = [c] := by
  constructor
  · intro h
    cases h with
    | char h => exact ⟨_, h, rfl⟩
  · rintro ⟨c, h, rfl⟩
    exact .char h

theorem matches_seq_iff :
    Matches (.seq a b) t ↔ ∃ u v, Matches a u ∧ Matches b v ∧ t = u ++ v := by
  constructor
  · intro h
    cases h with
    | seq first second => exact ⟨_, _, first, second, rfl⟩
  · rintro ⟨u, v, hu, hv, rfl⟩
    exact .seq hu hv

theorem matches_alt_iff : Matches (.alt a b) t ↔ Matches a t ∨ Matches b t := by
  constructor
  · intro h
    cases h with
    | left h => exact .inl h
    | right h => exact .inr h
  · rintro (h | h)
    · exact .left h
    · exact .right h

theorem mem_iterateWays_plain {greedy : Bool}
    (hbody : ∀ s e : State, e ∈ body.ways calls false s ↔ ∃ t, body.Matches t ∧ s.Takes t e)
    {fuel least : Nat} {most : Option Nat} {s e : State} (hfuel : s.cursor.after.length < fuel) :
    e ∈ iterateWays (body.ways calls false) greedy fuel least most s ↔
      ∃ t, Matches (.repeated greedy least most body) t ∧ s.Takes t e := by
  induction fuel generalizing least most s with
  | zero => cases hfuel
  | succ fuel ih =>
    have hroom {m : State} {t : List Char} (ht : s.Takes t m) (hne : t ≠ []) :
        m.cursor.after.length < fuel := by
      have hlen := ht.cursor.length_eq
      have hpos := List.length_pos_iff.mpr hne
      omega
    rw [mem_iterateWays_succ]
    constructor
    · rintro (⟨hstop, rfl⟩ | ⟨hmost, m, hm, he⟩)
      · exact ⟨[], .stop hstop, .refl _⟩
      · obtain ⟨t, ht, hst⟩ := (hbody s m).mp hm
        split at he
        · rename_i hindex
          obtain rfl := hst.index_eq_iff.mp hindex
          exact ⟨[], .idle hmost ht, he ▸ hst⟩
        · rename_i hindex
          have hne : t ≠ [] := fun h => hindex (hst.index_eq_iff.mpr h)
          obtain ⟨u, hu, hmu⟩ := (ih (hroom hst hne)).mp he
          exact ⟨t ++ u, .round hmost ht hne hu, hst.trans hmu⟩
    · rintro ⟨t, ht, hst⟩
      cases ht with
      | stop hstop => exact .inl ⟨hstop, hst.eq_of_nil⟩
      | idle hmost last =>
        refine .inr ⟨hmost, e, (hbody s e).mpr ⟨[], last, hst⟩, ?_⟩
        rw [if_pos (hst.index_eq_iff.mpr rfl)]
      | round hmost first hne rest =>
        obtain ⟨m, hsm, hme⟩ := hst.split
        refine .inr ⟨hmost, m, (hbody s m).mpr ⟨_, first, hsm⟩, ?_⟩
        rw [if_neg fun h => hne (hsm.index_eq_iff.mp h)]
        exact (ih (hroom hsm hne)).mpr ⟨_, rest, hme⟩

/-- A plain node takes its texts, where they stand, and nothing else. -/
theorem mem_ways_plain (hn : n.Plain) {s e : State} :
    e ∈ n.ways calls false s ↔ ∃ t, n.Matches t ∧ s.Takes t e := by
  induction n generalizing s e with
  | empty =>
    rw [ways, List.mem_singleton]
    constructor
    · rintro rfl
      exact ⟨[], .empty, .refl _⟩
    · rintro ⟨t, ht, hst⟩
      obtain rfl := matches_empty_iff.mp ht
      exact hst.eq_of_nil
  | never =>
    constructor
    · intro he
      cases he
    · rintro ⟨t, ht, -⟩
      cases ht
  | char ignoreCase test =>
    rw [mem_ways_char]
    constructor
    · rintro ⟨c, hc, ht, hmemory⟩
      exact ⟨[c], .char hc, ht, hmemory⟩
    · rintro ⟨t, ht, hst⟩
      obtain ⟨c, hc, rfl⟩ := matches_char_iff.mp ht
      exact ⟨c, hc, hst.cursor, hst.memory⟩
  | seq a b iha ihb =>
    rw [mem_ways_seq]
    constructor
    · rintro ⟨m, hm, he⟩
      obtain ⟨t, ht, hsm⟩ := (iha hn.1).mp hm
      obtain ⟨u, hu, hme⟩ := (ihb hn.2).mp he
      exact ⟨t ++ u, .seq ht hu, hsm.trans hme⟩
    · rintro ⟨t, ht, hst⟩
      obtain ⟨u, v, hu, hv, rfl⟩ := matches_seq_iff.mp ht
      obtain ⟨m, hsm, hme⟩ := hst.split
      exact ⟨m, (iha hn.1).mpr ⟨u, hu, hsm⟩, (ihb hn.2).mpr ⟨v, hv, hme⟩⟩
  | alt a b iha ihb =>
    rw [mem_ways_alt, iha hn.1, ihb hn.2, ← exists_or]
    refine exists_congr fun t => ?_
    rw [matches_alt_iff, or_and_right]
  | repeated greedy least most body ih =>
    exact mem_iterateWays_plain (fun s e => ih hn) (Nat.lt_succ_self _)
  | _ => exact hn.elim

/-- Matching a whole text decides whether it is one of a plain node. -/
theorem matchesAll_iff (hn : n.Plain) : n.matchesAll t = true ↔ n.Matches t := by
  have hrun : n.matchesAll t = true ↔
      ∃ e ∈ n.startWays (.begin 0 (.start t)), e.cursor.after = [] := by
    rw [matchesAll, start_eq_findSome?, List.findSome?_isSome_iff]
    refine exists_congr fun e => and_congr_right fun _ => ?_
    rw [← List.isEmpty_iff]
    split <;> simp_all
  rw [hrun]
  constructor
  · rintro ⟨e, he, hend⟩
    obtain ⟨u, hu, hst⟩ := (mem_ways_plain hn).mp he
    have ha := hst.cursor.after
    rw [hend, List.append_nil] at ha
    exact (show t = u from ha) ▸ hu
  · intro ht
    obtain ⟨e, he, hend⟩ := State.exists_takes (s := .begin 0 (.start t)) (t := t) (r := [])
      (List.append_nil t).symm
    exact ⟨e, (mem_ways_plain hn).mpr ⟨t, ht, he⟩, hend⟩

theorem matchesAll_char_iff {ignoreCase : Bool} {test : CharTest} :
    (Node.char ignoreCase test).matchesAll t = true ↔
      ∃ c, acceptsChar ignoreCase test c = true ∧ t = [c] :=
  Iff.trans (matchesAll_iff trivial) matches_char_iff

/-- The texts of a node are of the kind of characters that it takes. -/
theorem Matches.forall_mem {kind : Char → Prop} (h : n.Matches t) (hn : n.TakesOnly kind) :
    ∀ c ∈ t, kind c := by
  induction h with
  | empty => simp
  | char hc =>
    intro c hmem
    exact List.mem_singleton.mp hmem ▸ hn _ hc
  | seq _ _ iha ihb => exact List.forall_mem_append.mpr ⟨iha hn.1, ihb hn.2⟩
  | left _ ih => exact ih hn.1
  | right _ ih => exact ih hn.2
  | stop => simp
  | idle => simp
  | round _ _ _ _ ihb ihr => exact List.forall_mem_append.mpr ⟨ihb hn, ihr hn⟩

/-- A repetition without an upper bound, of a node that takes something each time. -/
theorem matches_repeated_iff {greedy : Bool} {least : Nat} (hbody : ¬ Matches body []) :
    Matches (.repeated greedy least none body) t ↔
      ∃ ts : List (List Char), least ≤ ts.length ∧ (∀ u ∈ ts, Matches body u) ∧ t = ts.flatten := by
  constructor
  · intro h
    generalize hn : Node.repeated greedy least none body = n at h
    induction h generalizing least with
    | stop hstop =>
      obtain ⟨rfl, rfl, rfl, rfl⟩ := Node.repeated.inj hn
      refine ⟨[], ?_, by simp, rfl⟩
      rcases hstop with h | h
      · cases h
      · exact Nat.le_of_eq h
    | idle _ last =>
      obtain ⟨rfl, rfl, rfl, rfl⟩ := Node.repeated.inj hn
      exact absurd last hbody
    | @round _ _ _ _ t _ _ first _ _ _ ih =>
      obtain ⟨rfl, rfl, rfl, rfl⟩ := Node.repeated.inj hn
      obtain ⟨ts, hlen, hts, rfl⟩ := ih rfl
      refine ⟨t :: ts, ?_, List.forall_mem_cons.mpr ⟨first, hts⟩, rfl⟩
      rw [List.length_cons]
      omega
    | _ => cases hn
  · rintro ⟨ts, hlen, hts, rfl⟩
    induction ts generalizing least with
    | nil => exact .stop (.inr (Nat.le_zero.mp hlen))
    | cons u ts ih =>
      obtain ⟨hu, hts⟩ := List.forall_mem_cons.mp hts
      have hne : u ≠ [] := fun h => hbody (h ▸ hu)
      rw [List.length_cons] at hlen
      exact .round (by simp) hu hne (ih (by omega) hts)

section Branches

variable {ns : List (Node Nat)}

theorem branches_cons (n : Node Nat) (hns : ns ≠ []) :
    branches (n :: ns) = .alt n (branches ns) := by
  obtain ⟨m, ms, rfl⟩ := List.exists_cons_of_ne_nil hns
  rfl

theorem plain_branches_iff : (branches ns).Plain ↔ ∀ n ∈ ns, n.Plain := by
  induction ns with
  | nil => simp [branches, Plain]
  | cons n ns ih =>
    by_cases hns : ns = []
    · simp [hns, branches]
    · rw [branches_cons n hns, List.forall_mem_cons, ← ih]
      rfl

theorem takesOnly_branches_iff {kind : Char → Prop} :
    (branches ns).TakesOnly kind ↔ ∀ n ∈ ns, n.TakesOnly kind := by
  induction ns with
  | nil => simp [branches, TakesOnly]
  | cons n ns ih =>
    by_cases hns : ns = []
    · simp [hns, branches]
    · rw [branches_cons n hns, List.forall_mem_cons, ← ih]
      rfl

theorem matches_branches_iff (hns : ns ≠ []) :
    Matches (branches ns) t ↔ ∃ n ∈ ns, Matches n t := by
  induction ns with
  | nil => exact absurd rfl hns
  | cons n ns ih =>
    by_cases hns : ns = []
    · simp [hns, branches]
    · rw [branches_cons n hns, matches_alt_iff, ih hns]
      simp

end Branches

end Node

end LineJoin.Pattern
