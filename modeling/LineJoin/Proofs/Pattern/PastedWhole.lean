import LineJoin.Proofs.Pattern.Pieces
import LineJoin.Proofs.Pattern.CountedOn

/-!
# Whole texts in parentheses

A text that is a pattern by itself is read in parentheses that are not counted as the same node, with
its groups counted on, as long as it does not end in a comment. Flags that it sets for the whole
pattern start the reading of the text around it again as often as its own, so both readings end with
the same flags.
-/

namespace LineJoin.Pattern

open Reader ReadState

variable [CharacterNames]

/-- The flags with which a text is read in the end. -/
def settledFlags (text : List Char) : Nat → Flags → Flags
  | 0, f => f
  | fuel + 1, f =>
    match readWhole.run (.start text f) with
    | .error (.restart more) => settledFlags text fuel more
    | _ => f

theorem readWhole_of_readWith {text : List Char} {fuel : Nat} {flags : Flags} {q : Pattern}
    (h : readWith text fuel flags = .ok q) :
    ∃ root t, readWhole.run (.start text (settledFlags text fuel flags)) = .ok (root, t) ∧
      root.resolve (Ref.number t) = .ok q.root := by
  induction fuel generalizing flags with
  | zero => cases h
  | succ fuel ih =>
    rw [readWith] at h
    cases hrun : readWhole.run (.start text flags) with
    | error e =>
      rw [hrun] at h
      cases e with
      | fault f => cases h
      | restart more =>
        rw [settledFlags, hrun]
        exact ih h
    | ok p =>
      obtain ⟨root, t⟩ := p
      rw [hrun] at h
      obtain ⟨root', hroot, h⟩ := ok_of_bind h
      cases h
      rw [settledFlags, hrun]
      exact ⟨root, t, hrun, hroot⟩

/-- A text whose reading starts again whenever that of another does comes to the flags of that. -/
theorem readWith_settled {text other : List Char}
    (hrestart : ∀ flags more, readWhole.run (.start text flags) = .error (.restart more) →
      readWhole.run (.start other flags) = .error (.restart more))
    {fuel : Nat} {flags : Flags} {q : Pattern} (h : readWith text fuel flags = .ok q) :
    ∃ m, readWith other fuel flags =
      readWith other (m + 1) (settledFlags text fuel flags) := by
  induction fuel generalizing flags with
  | zero => cases h
  | succ fuel ih =>
    rw [readWith] at h
    cases hrun : readWhole.run (.start text flags) with
    | error e =>
      rw [hrun] at h
      cases e with
      | fault f => cases h
      | restart more =>
        obtain ⟨m, hm⟩ := ih h
        rw [settledFlags, hrun, readWith, hrestart flags more hrun]
        exact ⟨m, hm⟩
    | ok p =>
      rw [settledFlags, hrun]
      exact ⟨fuel, rfl⟩

section Settled

variable {text other : List Char} {q : Pattern} (h : Pattern.read text = .ok q)
  (hrestart : ∀ flags more, readWhole.run (.start text flags) = .error (.restart more) →
    readWhole.run (.start other flags) = .error (.restart more))

include h hrestart

theorem read_of_settled {root : Node Ref} {root' : Node Nat} {s : ReadState}
    (hread : readWhole.run (.start other (settledFlags text 5 {})) = .ok (root, s))
    (hroot : root.resolve (Ref.number s) = .ok root') :
    Pattern.read other = .ok ⟨root', s.groupCount, other⟩ := by
  obtain ⟨m, hm⟩ := readWith_settled hrestart h
  rw [Pattern.read, hm, readWith, hread]
  simp only [hroot]
  rfl

theorem read_error_of_settled {e : Fault}
    (hread : readWhole.run (.start other (settledFlags text 5 {})) = .error (.fault e)) :
    Pattern.read other = .error e := by
  obtain ⟨m, hm⟩ := readWith_settled hrestart h
  rw [Pattern.read, hm, readWith, hread]

end Settled

/-- The fuel for the alternatives of a whole text. -/
def wholeFuel (text : List Char) : Nat := 6 * text.length + 8

theorem run_readWhole (text : List Char) (flags : Flags) :
    readWhole.run (.start text flags) = (do
      let root ← readAlternatives (wholeFuel text)
      if ← atEnd then return root else fail .unbalanced : Reader (Node Ref)).run
        (.start text flags) := by
  have hfuel : wholeFuel text = 6 * (ReadState.start text flags).rest.length + 8 := rfl
  rw [hfuel, readWhole]
  exact run_bind_ok (run_get _)

theorem readAlternatives_of_readWhole {text : List Char} {flags : Flags} {root : Node Ref}
    {t : ReadState} (h : readWhole.run (.start text flags) = .ok (root, t)) :
    (readAlternatives (wholeFuel text)).run (.start text flags) = .ok (root, t) ∧
      (ahead t).2 = [] := by
  rw [run_readWhole] at h
  cases hrun : (readAlternatives (wholeFuel text)).run (.start text flags) with
  | error e =>
    rw [run_bind_error hrun] at h
    cases h
  | ok p =>
    obtain ⟨n, u⟩ := p
    have hend : atEnd.run u = .ok ((ahead u).2.isEmpty, u) := rfl
    rw [run_bind_ok hrun, run_bind_ok hend] at h
    split at h
    · rename_i hempty
      cases h
      exact ⟨rfl, List.isEmpty_iff.mp hempty⟩
    · cases h

theorem readAlternatives_of_restart {text : List Char} {flags more : Flags}
    (h : readWhole.run (.start text flags) = .error (.restart more)) :
    (readAlternatives (wholeFuel text)).run (.start text flags) = .error (.restart more) := by
  rw [run_readWhole] at h
  cases hrun : (readAlternatives (wholeFuel text)).run (.start text flags) with
  | error e =>
    rw [run_bind_error hrun] at h
    exact h
  | ok p =>
    obtain ⟨n, u⟩ := p
    have hend : atEnd.run u = .ok ((ahead u).2.isEmpty, u) := rfl
    rw [run_bind_ok hrun, run_bind_ok hend] at h
    split at h
    · cases h
    · cases h

/-- A state in which the flags are those of the whole pattern and no group has a name. -/
structure ReadState.Fresh (s : ReadState) : Prop where
  level : s.Level
  globalFlags : s.globalFlags = s.flags
  names : s.groupNames = []
  outer : ∀ n ∈ s.openGroups, n ≤ s.groupCount
  opened : ∀ n ∈ s.opened, n ≤ s.groupCount

/-- The place after an opening parenthesis with a question mark and a colon. -/
def ReadState.inside (s : ReadState) (rest : List Char) : Place :=
  ⟨rest, s.position + 3, s.groupCount, s.openGroups, s.opened⟩

section Pasted

variable {s t : ReadState} {text rest : List Char} {n : Node Ref} {fuel : Nat} {more : Flags}

omit [CharacterNames] in
theorem ReadState.Fresh.proper (hs : s.Fresh) (hline : '\n' ∉ rest) : (s.inside rest).Proper :=
  ⟨hs.outer, hs.opened, hline⟩

omit [CharacterNames] in
theorem ReadState.Fresh.state_inside (hs : s.Fresh) :
    (s.inside rest).state (.start text s.flags) = s.past 3 (text ++ ')' :: rest) := by
  obtain ⟨hlevel, hglobal, hnames, -, -⟩ := hs
  simp only [Level] at hlevel
  simp [Place.state, inside, ReadState.start, past, Place.tail, hlevel, hglobal, hnames]

omit [CharacterNames] in
theorem sound_start (h : refersByNumber text = false) (flags : Flags) :
    (ReadState.start text flags).Sound := ⟨h, fun _ he => nomatch he⟩

/-- The state after the closing parenthesis, with the flags from before the opening one. -/
def ReadState.after (s : ReadState) (rest : List Char) (t : ReadState) : ReadState :=
  { (s.inside rest).state t with
    rest, position := (ahead t).1 + (s.position + 3) + 1, flags := s.flags,
    skips := s.flags.verbose }

/-- The alternatives in parentheses are read as they are read alone. -/
theorem inside_mirrors (hs : s.Fresh) (hline : '\n' ∉ rest)
    (hnumbers : refersByNumber text = false) (hfuel : wholeFuel text ≤ fuel) :
    Mirrors (readAlternatives (wholeFuel text)) (readAlternatives fuel) (.start text s.flags)
      (s.past 3 (text ++ ')' :: rest)) ((s.inside rest).Went (s.inside rest).Copies
        (.start text s.flags)) := by
  rw [← hs.state_inside]
  refine (Place.readsAlike (hs.proper hline) _).alternatives hfuel (sound_start hnumbers _) ?_
  exact Nat.add_le_add_left (by omega) _

/-- A text in parentheses that are not counted starts again as it does alone. -/
theorem run_inside_restart (hs : s.Fresh) (hline : '\n' ∉ rest)
    (hnumbers : refersByNumber text = false)
    (hrest : s.rest = '(' :: '?' :: ':' :: (text ++ ')' :: rest)) (hfuel : wholeFuel text ≤ fuel)
    (h : (readAlternatives (wholeFuel text)).run (.start text s.flags) =
      .error (.restart more)) (seq : Sequence) :
    (readSequence (fuel + 4) seq).run s = .error (.restart more) := by
  have hread := (inside_mirrors hs hline hnumbers hfuel).restart more h
  have hbody : (readBody (fuel + 1) s.flags).run (s.past 3 (text ++ ')' :: rest)) =
      .error (.restart more) := by
    rw [readBody]
    exact run_bind_error hread
  have hsees : s.Sees '(' ('?' :: ':' :: (text ++ ')' :: rest)) := sees_visible hrest (by decide)
  have hparenthesis := (run_readParenthesis_colon (fuel + 1)
    (s := s.past 1 ('?' :: ':' :: (text ++ ')' :: rest))) rfl hs.level).trans (run_bind_error hbody)
  rw [readSequence, run_bind_ok (run_get s), run_bind_ok (run_next hsees)]
  exact run_bind_error hparenthesis

omit [CharacterNames] in
theorem run_expect_after (hs : s.Fresh) (hline : '\n' ∉ rest) (hend : (ahead t).2 = []) :
    (t.Commented → ∃ e, (expect ')').run ((s.inside rest).state t) = .error (.fault e)) ∧
      (¬t.Commented → (expect ')').run ((s.inside rest).state t) =
        .ok (⟨⟩, { (s.inside rest).state t with
          rest, position := (ahead t).1 + (s.position + 3) + 1 })) := by
  have hahead : ahead t = ((ahead t).1, []) := Prod.ext rfl hend
  rcases Place.ahead_state_of_nil (hs.proper hline) hahead with ⟨hc, hnil⟩ | ⟨hc, hclose⟩
  · refine ⟨fun _ => ?_, fun hn => absurd hc hn⟩
    have haccept : (accept ')').run ((s.inside rest).state t) =
        .ok (false, (s.inside rest).state t) := by
      rw [accept, run_bind_ok (run_get _)]
      cases hp : ahead ((s.inside rest).state t) with
      | mk m text =>
        rw [hp] at hnil
        obtain rfl : text = [] := hnil
        rfl
    rw [expect, run_bind_ok haccept]
    exact ⟨_, rfl⟩
  · refine ⟨fun hn => absurd hn hc, fun _ => ?_⟩
    have haccept : (accept ')').run ((s.inside rest).state t) =
        .ok (true, { (s.inside rest).state t with
          rest, position := (ahead t).1 + (s.position + 3) + 1 }) := by
      rw [accept, run_bind_ok (run_get _), hclose]
      rfl
    rw [expect, run_bind_ok haccept]
    rfl

/-- A text in parentheses that are not counted is one element, unless it ends in a comment. -/
theorem run_inside (hs : s.Fresh) (hline : '\n' ∉ rest)
    (hnumbers : refersByNumber text = false)
    (hrest : s.rest = '(' :: '?' :: ':' :: (text ++ ')' :: rest)) (hfuel : wholeFuel text ≤ fuel)
    (h : (readAlternatives (wholeFuel text)).run (.start text s.flags) = .ok (n, t))
    (hend : (ahead t).2 = []) (seq : Sequence) :
    (t.Commented → ∃ e, (readSequence (fuel + 4) seq).run s = .error (.fault e)) ∧
      (¬t.Commented → (readSequence (fuel + 4) seq).run s =
        (readSequence (fuel + 3) (seq.push ((s.inside rest).node n))).run (s.after rest t) ∧
          n.Named ∧ (ReadState.start text s.flags).Onward t) := by
  obtain ⟨_, _, hread, ⟨rfl, hnamed⟩, rfl, ht⟩ :=
    (inside_mirrors hs hline hnumbers hfuel).ok n t h
  obtain ⟨hfault, hclose⟩ := run_expect_after hs hline hend
  have hsees : s.Sees '(' ('?' :: ':' :: (text ++ ')' :: rest)) := sees_visible hrest (by decide)
  have hparenthesis := run_readParenthesis_colon (fuel + 1)
    (s := s.past 1 ('?' :: ':' :: (text ++ ')' :: rest))) rfl hs.level
  constructor
  · intro hc
    obtain ⟨e, he⟩ := hfault hc
    have hbody : (readBody (fuel + 1) s.flags).run (s.past 3 (text ++ ')' :: rest)) =
        .error (.fault e) := by
      rw [readBody, run_bind_ok hread]
      exact run_bind_error he
    refine ⟨e, ?_⟩
    rw [readSequence, run_bind_ok (run_get s), run_bind_ok (run_next hsees)]
    exact run_bind_error (hparenthesis.trans (run_bind_error hbody))
  · intro hc
    have hbody : (readBody (fuel + 1) s.flags).run (s.past 3 (text ++ ')' :: rest)) =
        .ok ((s.inside rest).node n, s.after rest t) := by
      rw [readBody, run_bind_ok hread, run_bind_ok (hclose hc)]
      rfl
    refine ⟨?_, hnamed, ht⟩
    exact run_readSequence_parenthesis hrest (hparenthesis.trans ((run_bind_ok hbody).trans rfl)) seq

end Pasted

omit [CharacterNames] in
theorem fresh_start (text : List Char) (flags : Flags) : (ReadState.start text flags).Fresh :=
  ⟨rfl, rfl, rfl, nofun, nofun⟩

/-- A text in parentheses that are not counted. -/
def inParentheses (text : List Char) : List Char := '(' :: '?' :: ':' :: (text ++ [')'])

/-- A text that makes a pattern in parentheses that are not counted. -/
def Bracketed (text : List Char) : Prop := ∃ p, Pattern.read (inParentheses text) = .ok p

section Whole

variable {text : List Char} {q : Pattern} {n : Node Ref} {t : ReadState}

/-- A pattern is read to its end with the flags that its text settles on. -/
theorem reading_alone (h : Pattern.read text = .ok q) :
    ∃ n t, (readAlternatives (wholeFuel text)).run (.start text (settledFlags text 5 {})) =
        .ok (n, t) ∧ n.resolve (Ref.number t) = .ok q.root ∧ (ahead t).2 = [] := by
  obtain ⟨n, t, hwhole, hroot⟩ := readWhole_of_readWith h
  obtain ⟨hread, hend⟩ := readAlternatives_of_readWhole hwhole
  exact ⟨n, t, hread, hroot, hend⟩

/-- A pattern makes one in parentheses unless it ends in a comment, which goes on over the closing
parenthesis. -/
theorem bracketed_iff (h : Pattern.read text = .ok q) (hnumbers : refersByNumber text = false)
    (hread : (readAlternatives (wholeFuel text)).run (.start text (settledFlags text 5 {})) =
      .ok (n, t)) (hroot : n.resolve (Ref.number t) = .ok q.root) (hend : (ahead t).2 = []) :
    Bracketed text ↔ ¬t.Commented := by
  have hlength : 6 * (inParentheses text).length + 7 = wholeFuel text + 19 + 4 := by
    simp only [wholeFuel, inParentheses, List.length_cons, List.length_append, List.length_nil]
    omega
  have hrestart (flags more : Flags) (hrun : readWhole.run (.start text flags) =
      .error (.restart more)) :
      readWhole.run (.start (inParentheses text) flags) = .error (.restart more) := by
    refine run_readWhole_error ?_
    rw [hlength]
    exact run_inside_restart (fresh_start _ _) (List.not_mem_nil : '\n' ∉ []) hnumbers rfl
      (by omega) (readAlternatives_of_restart hrun) {}
  obtain ⟨flags, hflags⟩ : ∃ flags, settledFlags text 5 {} = flags := ⟨_, rfl⟩
  rw [hflags] at hread
  let s : ReadState := .start (inParentheses text) flags
  obtain ⟨hfault, hclosed⟩ := run_inside (fresh_start (inParentheses text) flags)
    (List.not_mem_nil : '\n' ∉ []) hnumbers rfl
    (show wholeFuel text ≤ wholeFuel text + 19 by omega) hread hend {}
  rw [← hlength] at hfault hclosed
  constructor
  · rintro ⟨p, hp⟩ hc
    obtain ⟨e, he⟩ := hfault hc
    rw [read_error_of_settled h hrestart (hflags ▸ run_readWhole_error he)] at hp
    cases hp
  · intro hc
    obtain ⟨hsequence, hnamed, ht⟩ := hclosed hc
    have hwhole := run_readWhole_finish (hsequence.trans (run_readSequence_finish rfl _ _)) rfl
    have hrenames : (s.inside []).Renames t (s.after [] t) :=
      ⟨ht.sound.named, nofun, rfl, rfl, rfl⟩
    have hresolved := (resolve_pasted hrenames hnamed hroot).1
    exact ⟨_, read_of_settled h hrestart (hflags ▸ hwhole) hresolved⟩

/-- No group of a pattern has the number zero. -/
theorem counted_alone (h : Pattern.read text = .ok q) (hnumbers : refersByNumber text = false) :
    q.root.Counted := by
  obtain ⟨n, t, hread, hroot, -⟩ := reading_alone h
  obtain ⟨_, _, -, ⟨rfl, hnamed⟩, -, ht⟩ := (inside_mirrors (fresh_start (inParentheses text) _)
    (List.not_mem_nil : '\n' ∉ []) hnumbers (Nat.le_refl _)).ok n t hread
  let P : Place := ⟨[], 0, 0, [], []⟩
  have hrenames : P.Renames t (P.state t) := ⟨ht.sound.named, nofun, rfl, rfl, rfl⟩
  exact (resolve_pasted hrenames hnamed hroot).2

end Whole

end LineJoin.Pattern
