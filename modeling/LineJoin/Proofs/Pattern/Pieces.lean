import LineJoin.Proofs.Pattern.Classes

/-!
# Reading pieces of a pattern

A piece of a pattern text that sets no flags and opens no numbered group is read as the same nodes
wherever it stands, with regard to case as the flags have it. `ReadsElement`, `ReadsSequence`,
`ReadsBranches` and `ReadsAlternatives` say so for one element, for elements up to the end of a
branch, for further branches and for all branches up to a closing parenthesis. Two steps of fuel for
each character are enough.
-/

namespace LineJoin.Pattern

open Reader ReadState

variable [CharacterNames]

/-- A branch ends. -/
def Ends (rest : List Char) : Prop := ∃ c r, rest = c :: r ∧ (c = ')' ∨ c = '|')

/-- Blanks are passed over just as the flags say. -/
def ReadState.Level (s : ReadState) : Prop := s.skips = s.flags.verbose

/-- No flags are set. -/
structure ReadState.Bare (s : ReadState) : Prop where
  flags : s.flags = {}
  skips : s.skips = false

omit [CharacterNames] in
theorem ReadState.Bare.past {s : ReadState} (h : s.Bare) (n : Nat) (rest : List Char) :
    (s.past n rest).Bare := ⟨h.flags, h.skips⟩

omit [CharacterNames] in
theorem ReadState.Bare.level {s : ReadState} (h : s.Bare) : s.Level := by
  rw [Level, h.skips, h.flags]

def ReadsElement (text : List Char) (n : Bool → Node Ref) : Prop :=
  ∀ (fuel : Nat) (seq : Sequence) (s : ReadState) (rest : List Char),
    2 * text.length ≤ fuel + 1 → s.Level → s.rest = text ++ rest →
    (readSequence (fuel + 1) seq).run s =
      (readSequence fuel (seq.push (n s.flags.ignoreCase))).run (s.past text.length rest)

def ReadsSequence (text : List Char) (ns : List (Bool → Node Ref)) : Prop :=
  ∀ (fuel : Nat) (seq : Sequence) (s : ReadState) (rest : List Char),
    2 * text.length ≤ fuel → s.Level → Ends rest → s.rest = text ++ rest →
    (readSequence fuel seq).run s =
      .ok (Node.sequence (seq.elements.reverse ++ ns.map (· s.flags.ignoreCase)),
        s.past text.length rest)

/-- Branches after the first one, each with the bar before it. -/
def ReadsBranches (text : List Char) (bs : List (Bool → Node Ref)) : Prop :=
  ∀ (fuel : Nat) (s : ReadState) (rest : List Char),
    2 * text.length ≤ fuel + bs.length → s.Level → Ends rest → s.rest = text ++ rest →
    (readMoreAlternatives (fuel + bs.length)).run s =
      ((bs.map (· s.flags.ignoreCase) ++ ·) <$> readMoreAlternatives fuel).run
        (s.past text.length rest)

def ReadsAlternatives (text : List Char) (bs : List (Bool → Node Ref)) : Prop :=
  ∀ (fuel : Nat) (s : ReadState) (rest : List Char),
    2 * text.length + 1 ≤ fuel → s.Level → s.rest = text ++ ')' :: rest →
    (readAlternatives fuel).run s =
      .ok (Node.branches (bs.map (· s.flags.ignoreCase)), s.past text.length (')' :: rest))

/-- Alternatives up to a closing parenthesis, where no flags are set. -/
def ReadsBare (text : List Char) (n : Node Ref) : Prop :=
  ∀ (fuel : Nat) (s : ReadState) (rest : List Char),
    6 * text.length ≤ fuel → s.Bare → s.rest = text ++ ')' :: rest →
    (readAlternatives fuel).run s = .ok (n, s.past text.length (')' :: rest))

variable {text more : List Char} {n : Bool → Node Ref} {ns bs : List (Bool → Node Ref)}
  {s : ReadState} {rest : List Char} {fuel : Nat}

omit [CharacterNames] in
theorem Ends.sees (h : Ends rest) (hs : s.rest = rest) :
    ∃ c r, s.Sees c r ∧ (c = ')' ∨ c = '|') := by
  obtain ⟨c, r, rfl, hc⟩ := h
  refine ⟨c, r, sees_visible hs ?_, hc⟩
  rcases hc with rfl | rfl <;> decide

theorem run_readSequence_end (h : Ends s.rest) (fuel : Nat) (seq : Sequence) :
    (readSequence fuel seq).run s = .ok (seq.toNode, s) := by
  cases fuel with
  | zero => rfl
  | succ fuel =>
    obtain ⟨c, r, hsees, hc⟩ := h.sees rfl
    rw [readSequence, run_bind_ok (run_get s), run_bind_ok (run_next hsees)]
    rcases hc with rfl | rfl <;> rfl

theorem run_readSequence_finish (h : s.rest = []) (fuel : Nat) (seq : Sequence) :
    (readSequence fuel seq).run s = .ok (seq.toNode, s) := by
  cases fuel with
  | zero => rfl
  | succ fuel =>
    rw [readSequence, run_bind_ok (run_get s), run_bind_ok (run_next_end h)]
    rfl

theorem run_readMoreAlternatives_finish (h : s.rest = []) (fuel : Nat) :
    (readMoreAlternatives fuel).run s = .ok ([], s) := by
  cases fuel with
  | zero => rfl
  | succ fuel =>
    rw [readMoreAlternatives, run_bind_ok (run_accept_end h '|')]
    rfl

/-- A whole text is read as one sequence first. -/
theorem run_readWhole_error {text : List Char} {flags : Flags} {e : Interrupt}
    (h : (readSequence (6 * text.length + 7) {}).run (.start text flags) = .error e) :
    readWhole.run (.start text flags) = .error e := by
  have hread : (readAlternatives (6 * text.length + 8)).run (.start text flags) = .error e := by
    rw [readAlternatives]
    exact run_bind_error h
  rw [readWhole, run_bind_ok (run_get _)]
  exact run_bind_error hread

/-- A whole text is the alternatives that reach its end. -/
theorem run_readWhole_alternatives {text : List Char} {flags : Flags} {n : Node Ref} {t : ReadState}
    (h : (readAlternatives (6 * text.length + 8)).run (.start text flags) = .ok (n, t))
    (ht : t.rest = []) : readWhole.run (.start text flags) = .ok (n, t) := by
  rw [readWhole, run_bind_ok (run_get _)]
  refine (run_bind_ok h).trans ?_
  exact (run_bind_ok (run_atEnd_finish ht)).trans rfl

theorem run_readWhole_finish {text : List Char} {flags : Flags} {n : Node Ref} {t : ReadState}
    (h : (readSequence (6 * text.length + 7) {}).run (.start text flags) = .ok (n, t))
    (ht : t.rest = []) : readWhole.run (.start text flags) = .ok (n, t) := by
  refine run_readWhole_alternatives ?_ ht
  rw [readAlternatives, run_bind_ok h, run_bind_ok (run_readMoreAlternatives_finish ht _)]
  rfl

theorem run_readMoreAlternatives_close (h : s.rest = ')' :: rest) (fuel : Nat) :
    (readMoreAlternatives fuel).run s = .ok ([], s) := by
  cases fuel with
  | zero => rfl
  | succ fuel =>
    have hsees : s.Sees ')' rest := sees_visible h (by decide)
    rw [readMoreAlternatives, run_bind_ok (run_accept_other hsees (by decide))]
    rfl

theorem run_readSequence_escape {t : ReadState} {atom : Atom} (h : s.rest = '\\' :: rest)
    (hread : (readEscape false).run (s.past 1 rest) = .ok (atom, t)) (fuel : Nat)
    (seq : Sequence) :
    (readSequence (fuel + 1) seq).run s =
      (readSequence fuel (seq.push (atom.toNode s.flags.ignoreCase))).run t := by
  have hsees : s.Sees '\\' rest := sees_visible h (by decide)
  rw [readSequence, run_bind_ok (run_get s), run_bind_ok (run_next hsees)]
  exact run_bind_ok hread

theorem run_readSequence_parenthesis {t : ReadState} {node : Node Ref} (h : s.rest = '(' :: rest)
    (hread : (readParenthesis fuel).run (s.past 1 rest) = .ok (some node, t)) (seq : Sequence) :
    (readSequence (fuel + 1) seq).run s = (readSequence fuel (seq.push node)).run t := by
  have hsees : s.Sees '(' rest := sees_visible h (by decide)
  rw [readSequence, run_bind_ok (run_get s), run_bind_ok (run_next hsees)]
  exact run_bind_ok hread

/-- The escape of a whole element; its text does not hold the backslash. -/
theorem readsElement_escape (text : List Char) {a : Atom}
    (hread : ∀ (s : ReadState) (rest : List Char), s.rest = text ++ rest →
      (readEscape false).run s = .ok (a, s.past text.length rest))
    (hn : ∀ i, n i = a.toNode i) : ReadsElement ('\\' :: text) n := by
  intro fuel seq s rest _ _ h
  have hatom := hread (s.past 1 (text ++ rest)) rest rfl
  rw [past_past, Nat.add_comm 1] at hatom
  rw [run_readSequence_escape h hatom, hn]
  rfl

theorem readsElement_property {name : List Char} {p : Property} (hp : NamesProperty name p)
    (hvisible : ∀ c ∈ name, visible c = true) :
    ReadsElement ('\\' :: 'p' :: '\x7b' :: (name ++ ['\x7d'])) fun i => .char i (.property p true) := by
  refine readsElement_escape _ (a := .property p true) (fun s rest h => ?_) fun _ => rfl
  have h' : s.rest = 'p' :: '\x7b' :: (name ++ '\x7d' :: rest) := by
    rw [h]
    simp
  rw [run_readEscape_property hp h' (fun _ => hvisible)]
  simp

theorem readsElement_hex {letter : Char} {digits : List Char}
    (hletter : letter = 'u' ∧ digits.length = 4 ∨ letter = 'U' ∧ digits.length = 8)
    (hdigits : ∀ c ∈ digits, (Span.hexValue? c).isSome = true)
    (hvalue : Span.hexNumber digits < 0x110000) :
    ReadsElement ('\\' :: letter :: digits) fun i => .char i (.code (Span.hexNumber digits)) :=
  readsElement_escape _ (fun _ _ h => run_readEscape_hex hletter hdigits hvalue h false)
    fun _ => rfl

theorem readsElement_set {c : Char} {items : List SetItem} (h : ReadsMembers (c :: text) items)
    (hc : c ≠ '^') (hcount : items.length ≤ text.length + 1) :
    ReadsElement ('[' :: c :: (text ++ [']'])) fun i => .char i (.set true items) := by
  intro fuel seq s rest _ _ hrest
  have hrest' : s.rest = '[' :: c :: (text ++ ']' :: rest) := by
    rw [hrest]
    simp
  have hsees : s.Sees '[' (c :: (text ++ ']' :: rest)) := sees_visible hrest' (by decide)
  have hset := run_readSet h hc hcount (s := s.past 1 (c :: (text ++ ']' :: rest))) rfl
  rw [past_past, Nat.add_comm 1] at hset
  rw [readSequence, run_bind_ok (run_get s), run_bind_ok (run_next hsees)]
  refine (run_bind_ok hset).trans ?_
  simp only [List.length_cons, List.length_append, List.length_nil]

theorem readsSequence_nil : ReadsSequence [] [] := by
  intro fuel seq s rest _ _ hends h
  obtain rfl : s.rest = rest := h
  rw [run_readSequence_end hends]
  simp [Sequence.toNode, past]

theorem readsSequence_cons (htext : text ≠ []) (h : ReadsElement text n)
    (hmore : ReadsSequence more ns) : ReadsSequence (text ++ more) (n :: ns) := by
  intro fuel seq s rest hfuel hlevel hends hrest
  have hpos := List.length_pos_iff.mpr htext
  rw [List.length_append] at hfuel
  obtain ⟨fuel, rfl⟩ : ∃ f, fuel = f + 1 := ⟨fuel - 1, by omega⟩
  rw [List.append_assoc] at hrest
  rw [h fuel seq s _ (by omega) hlevel hrest,
    hmore fuel _ (s.past text.length (more ++ rest)) rest (by omega) hlevel hends rfl, past_past,
    ← List.length_append]
  simp only [past, Sequence.push, List.reverse_cons, List.append_assoc, List.map_cons]
  rfl

theorem readsSequence_one (htext : text ≠ []) (h : ReadsElement text n) :
    ReadsSequence text [n] :=
  List.append_nil text ▸ readsSequence_cons htext h readsSequence_nil

/-- An element that is repeated at least once, in front of anything that is no quantifier. -/
theorem readsSequence_plus (htext : text ≠ []) (h : ReadsElement text n)
    (hempty : ∀ i, (n i).isEmpty = false) (hmore : ReadsSequence more ns)
    (hnext : more = [] ∨
      ∃ c r, more = c :: r ∧ visible c = true ∧ c ≠ '?' ∧ c ≠ '+') :
    ReadsSequence (text ++ '+' :: more) ((fun i => .repeated true 1 none (n i)) :: ns) := by
  intro fuel seq s rest hfuel hlevel hends hrest
  have hpos := List.length_pos_iff.mpr htext
  rw [List.length_append, List.length_cons] at hfuel
  obtain ⟨fuel, rfl⟩ : ∃ f, fuel = f + 2 := ⟨fuel - 2, by omega⟩
  rw [List.append_assoc, List.cons_append] at hrest
  let t := s.past text.length ('+' :: (more ++ rest))
  let u := t.past 1 (more ++ rest)
  have hplus : t.Sees '+' (more ++ rest) := sees_visible rfl (by decide)
  obtain ⟨c, r, hsees, hq, hp⟩ : ∃ c r, u.Sees c r ∧ c ≠ '?' ∧ c ≠ '+' := by
    rcases hnext with rfl | ⟨c, r, rfl, hc, hq, hp⟩
    · obtain ⟨c, r, hsees, hc⟩ := hends.sees (s := u) rfl
      refine ⟨c, r, hsees, ?_, ?_⟩ <;> rcases hc with rfl | rfl <;> decide
    · exact ⟨c, _, sees_visible rfl hc, hq, hp⟩
  have hquantify : (quantify ⟨1, none⟩ (n s.flags.ignoreCase)).run u =
      .ok (.repeated true 1 none (n s.flags.ignoreCase), u) := by
    rw [quantify, run_bind_ok (run_accept_other hsees hq)]
    refine (run_bind_ok (run_accept_other hsees hp)).trans ?_
    simp [hempty]
    rfl
  rw [h (fuel + 1) seq s _ (by omega) hlevel hrest, readSequence, run_bind_ok (run_get t),
    run_bind_ok (run_next hplus)]
  have happly : (applyQuantifier ⟨1, none⟩ t.position (seq.push (n s.flags.ignoreCase))).run u =
      .ok (⟨.repeated true 1 none (n s.flags.ignoreCase) :: seq.elements, false⟩, u) := by
    rw [applyQuantifier]
    exact (run_bind_ok hquantify).trans rfl
  refine (run_bind_ok happly).trans ?_
  rw [hmore fuel _ u rest (by omega) hlevel hends rfl]
  simp only [u, t, past_past, List.length_append, List.length_cons, List.reverse_cons,
    List.append_assoc, List.map_cons, Nat.add_assoc, Nat.add_comm 1]
  rfl

/-- Nothing, or a bar first. -/
def Barred (text : List Char) : Prop := text = [] ∨ ∃ r, text = '|' :: r

omit [CharacterNames] in
theorem Barred.ends (h : Barred more) (hrest : Ends rest) : Ends (more ++ rest) := by
  rcases h with rfl | ⟨r, rfl⟩
  · exact hrest
  · exact ⟨'|', _, rfl, .inr rfl⟩

omit [CharacterNames] in
theorem ends_close (rest : List Char) : Ends (')' :: rest) := ⟨')', rest, rfl, .inl rfl⟩

theorem readsBranches_nil : ReadsBranches [] [] := by
  intro fuel s rest _ _ _ h
  obtain rfl : s.rest = rest := h
  simp [past]

theorem readsBranches_cons (h : ReadsSequence text ns) (hbar : Barred more)
    (hmore : ReadsBranches more bs) :
    ReadsBranches ('|' :: (text ++ more))
      ((fun i => Node.sequence (ns.map (· i))) :: bs) := by
  intro fuel s rest hfuel hlevel hends hrest
  simp only [List.length_cons, List.length_append] at hfuel
  have hrest' : s.rest = '|' :: (text ++ (more ++ rest)) := by
    rw [hrest, List.cons_append, List.append_assoc]
  let t := s.past 1 (text ++ (more ++ rest))
  let u := t.past text.length (more ++ rest)
  have hbarSeen : s.Sees '|' (text ++ (more ++ rest)) := sees_visible hrest' (by decide)
  have hsequence := h (fuel + bs.length) {} t _ (by omega) hlevel (hbar.ends hends) rfl
  have hbranches := hmore fuel u rest (by omega) hlevel hends rfl
  rw [List.length_cons, ← Nat.add_assoc, readMoreAlternatives, run_bind_ok (run_accept hbarSeen)]
  refine (run_bind_ok hsequence).trans ?_
  rw [StateT.run_bind, hbranches, StateT.run_map, StateT.run_map]
  have hlength : s.past ('|' :: (text ++ more)).length rest = u.past more.length rest := by
    simp only [u, t, past_past, List.length_cons, List.length_append, Nat.add_assoc,
      Nat.add_comm 1]
  rw [hlength]
  cases (readMoreAlternatives fuel).run (u.past more.length rest) with
  | error e => rfl
  | ok p => rfl

theorem readsBranches_append {bs' : List (Bool → Node Ref)} (h : ReadsBranches text bs)
    (hcount : bs.length ≤ text.length) (hbar : Barred more) (hmore : ReadsBranches more bs') :
    ReadsBranches (text ++ more) (bs ++ bs') := by
  intro fuel s rest hfuel hlevel hends hrest
  simp only [List.length_append] at hfuel
  rw [List.append_assoc] at hrest
  have hfirst := h (fuel + bs'.length) s (more ++ rest) (by omega) hlevel (hbar.ends hends) hrest
  have hsecond := hmore fuel (s.past text.length (more ++ rest)) rest (by omega) hlevel hends rfl
  have hfuelEq : fuel + (bs ++ bs').length = fuel + bs'.length + bs.length := by
    rw [List.length_append]
    omega
  rw [hfuelEq, hfirst, StateT.run_map, hsecond, StateT.run_map, StateT.run_map, past_past,
    ← List.length_append]
  cases (readMoreAlternatives fuel).run (s.past (text ++ more).length rest) with
  | error e => rfl
  | ok p => simp [past]

/-- Branches that are read one by one. -/
theorem readsBranches_flatMap (pieces : List (List Char × List (Bool → Node Ref)))
    (h : ∀ p ∈ pieces, ReadsSequence p.1 p.2) :
    ReadsBranches (pieces.flatMap fun p => '|' :: p.1)
        (pieces.map fun p i => Node.sequence (p.2.map (· i))) ∧
      Barred (pieces.flatMap fun p => '|' :: p.1) ∧
      pieces.length ≤ (pieces.flatMap fun p => '|' :: p.1).length := by
  induction pieces with
  | nil => exact ⟨readsBranches_nil, .inl rfl, Nat.le_refl 0⟩
  | cons p pieces ih =>
    obtain ⟨hp, h⟩ := List.forall_mem_cons.mp h
    obtain ⟨hread, hbar, hlen⟩ := ih h
    refine ⟨readsBranches_cons hp hbar hread, .inr ⟨_, rfl⟩, ?_⟩
    simp only [List.flatMap_cons, List.length_append, List.length_cons]
    omega

theorem readsAlternatives_of (h : ReadsSequence text ns) (hbar : Barred more)
    (hmore : ReadsBranches more bs) (hcount : bs.length ≤ more.length) :
    ReadsAlternatives (text ++ more) ((fun i => Node.sequence (ns.map (· i))) :: bs) := by
  intro fuel s rest hfuel hlevel hrest
  rw [List.length_append] at hfuel
  obtain ⟨fuel, rfl⟩ : ∃ f, fuel = f + bs.length + 1 := ⟨fuel - 1 - bs.length, by omega⟩
  rw [List.append_assoc] at hrest
  have hsequence := h (fuel + bs.length) {} s _ (by omega) hlevel (hbar.ends (ends_close rest))
    hrest
  let t := s.past text.length (more ++ ')' :: rest)
  have hbranches := hmore fuel t (')' :: rest) (by omega) hlevel (ends_close rest) rfl
  have hclose := run_readMoreAlternatives_close (s := t.past more.length (')' :: rest)) rfl fuel
  rw [StateT.run_map, hclose, past_past] at hbranches
  rw [readAlternatives, run_bind_ok hsequence, run_bind_ok hbranches, List.length_append]
  simp only [List.append_nil, List.map_cons]
  rfl

/-- One element stands for alternatives of which there is one. -/
theorem ReadsElement.alternatives (h : ReadsElement text n) (htext : text ≠ []) :
    ReadsAlternatives text [n] := by
  have hread := readsAlternatives_of (readsSequence_one htext h) (.inl rfl) readsBranches_nil
    (Nat.le_refl 0)
  rw [List.append_nil] at hread
  exact hread

theorem ReadsElement.bare (h : ReadsElement text n) (htext : text ≠ []) :
    ReadsBare text (n false) := by
  intro fuel s rest hfuel hs hrest
  have hpos := List.length_pos_iff.mpr htext
  rw [h.alternatives htext fuel s rest (by omega) hs.level hrest, hs.flags]
  rfl

omit [CharacterNames] in
theorem ReadState.Level.body (h : s.Level) (k : Nat) (rest : List Char) :
    ({ s.past k rest with flags := s.flags, skips := s.flags.verbose } : ReadState) =
      s.past k rest := by
  rw [← h]
  rfl

/-- The inside of a group that has the flags of what stands around it. -/
theorem run_readBody_close {node : Node Ref} {k : Nat} (hlevel : s.Level)
    (h : (readAlternatives fuel).run s = .ok (node, s.past k (')' :: rest))) :
    (readBody (fuel + 1) s.flags).run s = .ok (node, s.past (k + 1) rest) := by
  have hclose : (s.past k (')' :: rest)).Sees ')' rest := sees_visible rfl (by decide)
  rw [readBody, run_bind_ok h, run_bind_ok (run_expect hclose), run_bind_ok (run_setFlags _ _)]
  have hlevel' := hlevel.body (k + 1) rest
  exact congrArg (fun u => Except.ok (_, u)) hlevel'

theorem run_readBody (h : ReadsAlternatives text bs) (hfuel : 2 * text.length + 1 ≤ fuel)
    (hlevel : s.Level) (hrest : s.rest = text ++ ')' :: rest) :
    (readBody (fuel + 1) s.flags).run s =
      .ok (Node.branches (bs.map (· s.flags.ignoreCase)), s.past (text.length + 1) rest) :=
  run_readBody_close hlevel (h fuel s rest hfuel hlevel hrest)

omit [CharacterNames] in
theorem Flags.union_without_none (f : Flags) : (f.union {}).without {} = f := by
  simp [Flags.union, Flags.without]

omit [CharacterNames] in
/-- No flags before a colon or a closing parenthesis. -/
theorem run_readFlagChange_none {c : Char} (h : s.Sees c rest) (hc : c = ':' ∨ c = ')') :
    readFlagChange.run s = .ok (⟨{}, {}⟩, s) := by
  have hletters : (readFlagLetters s.rest.length).run s = .ok ((0, {}), s) := by
    rw [h.rest, List.length_cons, readFlagLetters]
    refine (run_bind_ok (run_attempt_none (t := s.past 1 rest) ?_)).trans rfl
    rw [run_bind_ok (run_next h)]
    rcases hc with rfl | rfl <;> rfl
  have hdash : c ≠ '-' := by rcases hc with rfl | rfl <;> decide
  rw [readFlagChange, run_bind_ok (run_get s), run_bind_ok hletters,
    run_bind_ok (run_accept_other h hdash)]
  rfl

theorem run_readParenthesis_colon (fuel : Nat) (h : s.rest = '?' :: ':' :: rest) (hlevel : s.Level) :
    (readParenthesis (fuel + 2)).run s =
      (do return some (← readBody fuel s.flags)).run (s.past 2 rest) := by
  let t := s.past 1 (':' :: rest)
  have hcolon : t.Sees ':' rest := sees_visible rfl (by decide)
  have hflagged : (readFlagged (fuel + 1)).run t =
      (do return some (← readBody fuel s.flags)).run (s.past 2 rest) := by
    rw [readFlagged, run_bind_ok (run_flags t),
      run_bind_ok (run_readFlagChange_none hcolon (.inl rfl))]
    refine (run_bind_ok (run_accept hcolon)).trans ?_
    simp only [if_true]
    rw [run_bind_ok (run_setFlags _ _), Flags.union_without_none, ← hlevel.body 2 rest]
    rfl
  rw [readParenthesis, run_bind_ok (run_get s), h]
  simp only
  rw [run_bind_ok (run_nextExact h), run_bind_ok (run_position _),
    run_bind_ok (run_nextExact (s := t) rfl)]
  exact (run_bind_ok (run_set _ _)).trans hflagged

theorem run_readParenthesis_atomic (fuel : Nat) (h : s.rest = '?' :: '>' :: rest) :
    (readParenthesis (fuel + 1)).run s =
      (do return some (Node.atomic (← readBody fuel s.flags))).run (s.past 2 rest) := by
  rw [readParenthesis, run_bind_ok (run_get s), h]
  simp only
  rw [run_bind_ok (run_nextExact h), run_bind_ok (run_position _)]
  exact run_bind_ok (run_nextExact (s := s.past 1 ('>' :: rest)) rfl)

theorem run_readParenthesis_ahead (fuel : Nat) (h : s.rest = '?' :: '=' :: rest) :
    (readParenthesis (fuel + 1)).run s =
      (do return some (Node.look false true (← readBody fuel s.flags))).run (s.past 2 rest) := by
  rw [readParenthesis, run_bind_ok (run_get s), h]
  simp only
  rw [run_bind_ok (run_nextExact h), run_bind_ok (run_position _)]
  exact run_bind_ok (run_nextExact (s := s.past 1 ('=' :: rest)) rfl)

/-- Alternatives in parentheses that are not counted are one element. -/
theorem run_readSequence_group {inner : List Char} {node : Node Ref} {k : Nat} (hlevel : s.Level)
    (hrest : s.rest = '(' :: '?' :: ':' :: inner)
    (h : (readAlternatives fuel).run (s.past 3 inner) =
      .ok (node, (s.past 3 inner).past k (')' :: rest))) (seq : Sequence) :
    (readSequence (fuel + 4) seq).run s =
      (readSequence (fuel + 3) (seq.push node)).run (s.past (k + 4) rest) := by
  have hbody := run_readBody_close (s := s.past 3 inner) hlevel h
  have hread := (run_readParenthesis_colon (fuel + 1) (s := s.past 1 ('?' :: ':' :: inner)) rfl
    hlevel).trans ((run_bind_ok hbody).trans rfl)
  rw [run_readSequence_parenthesis hrest hread, past_past, show 3 + (k + 1) = k + 4 by omega]

theorem readsElement_group (h : ReadsAlternatives text bs) :
    ReadsElement ('(' :: '?' :: ':' :: (text ++ [')']))
      fun i => Node.branches (bs.map (· i)) := by
  intro fuel seq s rest hfuel hlevel hrest
  simp only [List.length_cons, List.length_append, List.length_nil] at hfuel
  obtain ⟨fuel, rfl⟩ : ∃ f, fuel = f + 3 := ⟨fuel - 3, by omega⟩
  have hrest' : s.rest = '(' :: '?' :: ':' :: (text ++ ')' :: rest) := by
    rw [hrest]
    simp
  have hbody := h fuel (s.past 3 (text ++ ')' :: rest)) rest (by omega) hlevel rfl
  rw [run_readSequence_group hlevel hrest' hbody]
  simp only [List.length_cons, List.length_append, List.length_nil]
  rfl

theorem readsElement_atomic (h : ReadsAlternatives text bs) :
    ReadsElement ('(' :: '?' :: '>' :: (text ++ [')']))
      fun i => .atomic (Node.branches (bs.map (· i))) := by
  intro fuel seq s rest hfuel hlevel hrest
  simp only [List.length_cons, List.length_append, List.length_nil] at hfuel
  obtain ⟨fuel, rfl⟩ : ∃ f, fuel = f + 2 := ⟨fuel - 2, by omega⟩
  have hrest' : s.rest = '(' :: '?' :: '>' :: (text ++ ')' :: rest) := by
    rw [hrest]
    simp
  let t := s.past 1 ('?' :: '>' :: (text ++ ')' :: rest))
  have hbody := run_readBody h (s := t.past 2 (text ++ ')' :: rest))
    (show 2 * text.length + 1 ≤ fuel by omega)
    hlevel rfl
  have hread := (run_readParenthesis_atomic (fuel + 1) (s := t) rfl).trans
    ((run_bind_ok hbody).trans rfl)
  rw [run_readSequence_parenthesis hrest' hread]
  have hlength : ('(' :: '?' :: '>' :: (text ++ [')'])).length = 1 + 2 + (text.length + 1) := by
    simp only [List.length_cons, List.length_append, List.length_nil]
    omega
  rw [hlength]
  simp only [t, past_past, Nat.add_assoc]
  rfl

theorem read_of_readWhole {text : List Char} {root : Node Ref} {s : ReadState} {root' : Node Nat}
    (h : readWhole.run (.start text {}) = .ok (root, s))
    (hroot : root.resolve (Ref.number s) = .ok root') :
    Pattern.read text = .ok ⟨root', s.groupCount, text⟩ := by
  simp only [Pattern.read, readWith, h, hroot]
  rfl

theorem read_of_fault {text : List Char} {e : Fault}
    (h : readWhole.run (.start text {}) = .error (.fault e)) : Pattern.read text = .error e := by
  simp only [Pattern.read, readWith, h]

end LineJoin.Pattern
