import LineJoin.Proofs.Pattern.PastedEscapes

/-!
# Pieces of a pasted reading

Bracket classes, quantifiers, flags, comments and references in parentheses are read at the place as
they are read alone. Flags that hold for the whole pattern start both readings again.
-/

namespace LineJoin.Pattern

open Reader ReadState

theorem ReadState.Took.onward_trans {s t u : ReadState} {c : Char} (h : s.Took c t)
    (k : t.Onward u) : s.Onward u where
  shorter := Nat.le_trans k.shorter (Nat.le_of_lt h.shorter)
  opens := by
    rw [k.opens, h.same]
  sound := k.sound

theorem ReadState.Took.escaping {s t : ReadState} (h : s.Took '\\' t) (hs : s.Sound) :
    t.Escaping where
  numbers := h.numbers
  named := by
    rw [h.same]
    exact hs.named

namespace Place

variable {P : Place} {s s' : ReadState}

theorem toItem_atom (a : Atom) : (P.atom a).toItem = a.toItem := by
  cases a <;> rfl

section Classes

variable [CharacterNames]

theorem readSetItem_mirrors (hP : P.Proper) (hs : s.Sound) :
    Mirrors readSetItem readSetItem s (P.state s) (P.Went Eq s) := by
  rcases accept_cases (c := '\\') hP (.inl rfl) hs (by decide) with
    ⟨h, h', hother⟩ | ⟨t, h, h', ht, -⟩
  · refine Mirrors.step h h' ?_
    refine (readNamedClass_agree hP hs).mirrors.bind ?_
    rintro found t _ _ ⟨rfl, rfl, ht, hnone⟩
    cases found with
    | some found =>
      obtain ⟨sign, property, name⟩ := found
      refine (findProperty_follow true property name).mirrors.bind ?_
      rintro p _ _ _ ⟨rfl, rfl, rfl⟩
      exact .pure ⟨rfl, rfl, ht⟩
    | none =>
      obtain rfl := hnone rfl
      rcases next_cases hP hs with ⟨c, t, h, h', ht, hahead⟩ | ⟨t, u, c, h, -, -⟩
      · have hback : c ≠ '\\' := by
          rintro rfl
          exact hother _ hahead
        exact Place.step h h' (ht.onward hs hback) (.pure ⟨rfl, rfl, (ht.onward hs hback).sound.onward⟩)
      · exact .of_fault (run_bind_ok h)
  · refine Mirrors.step h h' ?_
    refine (readEscape_mirrors hP (ht.escaping hs) true).bind ?_
    rintro a u _ _ ⟨⟨rfl, -⟩, rfl, hu⟩
    exact .pure ⟨(toItem_atom a).symm, rfl, ht.onward_trans hu⟩

theorem readSetMember_mirrors (hP : P.Proper) (hs : s.Sound) :
    Mirrors readSetMember readSetMember s (P.state s) (P.Went Eq s) := by
  refine Place.bind (readSetItem_mirrors hP hs) ?_
  rintro item _ t rfl ht
  cases item with
  | code low =>
    refine Place.bind (accept_went hP ht.sound (by decide) (by decide)).mirrors ?_
    rintro hyphen _ u rfl hu
    cases hyphen with
    | false => exact .pure ⟨rfl, rfl, hu.sound.onward⟩
    | true =>
      refine Place.bind (peek_went hP hu.sound (by decide)).mirrors ?_
      rintro closing _ v rfl hv
      cases closing with
      | true => exact .pure ⟨rfl, rfl, hv.sound.onward⟩
      | false =>
        refine Place.bind (readSetItem_mirrors hP hv.sound) ?_
        rintro second _ w rfl hw
        cases second with
        | code high =>
          dsimp only
          split
          · exact .of_fault rfl
          · split
            · exact .pure ⟨rfl, rfl, hw.sound.onward⟩
            · exact .pure ⟨rfl, rfl, hw.sound.onward⟩
        | _ => exact .pure ⟨rfl, rfl, hw.sound.onward⟩
  | _ => exact .pure ⟨rfl, rfl, ht.sound.onward⟩

theorem readSetMembers_mirrors (hP : P.Proper) (hs : s.Sound) {n n' : Nat} (hn : n ≤ n') :
    Mirrors (readSetMembers n) (readSetMembers n') s (P.state s) (P.Went Eq s) := by
  induction n generalizing s n' with
  | zero => exact .of_fault rfl
  | succ n ih =>
    obtain ⟨m, rfl⟩ := Nat.exists_eq_add_of_le' (Nat.lt_of_lt_of_le (Nat.succ_pos n) hn)
    refine Place.bind (readSetMember_mirrors hP hs) ?_
    rintro member _ t rfl ht
    refine Place.bind (peek_went hP ht.sound (by decide)).mirrors ?_
    rintro closing _ u rfl hu
    cases closing with
    | true => exact .pure ⟨rfl, rfl, hu.sound.onward⟩
    | false =>
      refine Place.bind (ih hu.sound (Nat.le_of_succ_le_succ hn)) ?_
      rintro rest _ v rfl hv
      exact .pure ⟨rfl, rfl, hv.sound.onward⟩

theorem readSet_mirrors (hP : P.Proper) (hs : s.Sound) :
    Mirrors readSet readSet s (P.state s) (P.Went Eq s) := by
  have hsound {t : ReadState} {b : Bool} (ht : t.Sound) : ReadState.Sound { t with skips := b } :=
    ⟨ht.numbers, ht.named⟩
  refine Mirrors.step (run_get s) (run_get _) ?_
  refine Place.step (t := { s with skips := false }) (run_set _ _) (run_set _ _)
    ⟨Nat.le_refl _, rfl, hsound hs⟩ ?_
  refine Place.bind (accept_went hP (hsound hs) (by decide) (by decide)).mirrors ?_
  rintro negated _ t rfl ht
  have hlength : s.rest.length + 1 ≤ (P.state s).rest.length + 1 := by
    simp only [state, List.length_append]
    omega
  refine Place.bind (readSetMembers_mirrors hP ht.sound hlength) ?_
  rintro items _ u rfl hu
  refine Place.bind (R := Eq) ((expect_follow hP (.inl rfl) hu.sound (by decide)
    (by decide)).mirrors.mono fun _ _ _ _ h => ⟨rfl, h.1, h.2.1⟩) ?_
  rintro _ _ v - hv
  refine Place.step (t := { v with skips := s.skips }) (run_modify _ _) (run_modify _ _)
    ⟨Nat.le_refl _, rfl, hsound hv.sound⟩ ?_
  exact .pure ⟨rfl, rfl, (hsound hv.sound).onward⟩

end Classes

section Quantifiers

theorem readQuantifier_mirrors (hP : P.Proper) (hs : s.Sound) (c : Char) :
    Mirrors (readQuantifier c) (readQuantifier c) s (P.state s) (P.Went Eq s) := by
  rw [readQuantifier.eq_def]
  split
  · exact .pure ⟨rfl, rfl, hs.onward⟩
  · exact .pure ⟨rfl, rfl, hs.onward⟩
  · exact .pure ⟨rfl, rfl, hs.onward⟩
  · exact (readCounts_follow hP hs).mirrors
  · exact .pure ⟨rfl, rfl, hs.onward⟩

theorem repeated_agree (hs : s.Sound) (q : Quantifier) (greedy possessive : Bool) (n : Node Ref)
    (hn : n.Named) :
    let x (n : Node Ref) : Reader (Node Ref) :=
      if n.isEmpty || (q.least = 1 && q.most = some 1) then return n
      else
        let node := Node.repeated greedy q.least q.most n
        return if possessive then .atomic node else node
    Agree (x n) (x (P.node n)) s (P.state s) (P.Went P.Copies s) := by
  simp only [isEmpty_node]
  split
  · exact .pure ⟨⟨rfl, hn⟩, rfl, hs.onward⟩
  · refine .pure ⟨?_, rfl, hs.onward⟩
    cases possessive with
    | true => exact ⟨rfl, hn⟩
    | false => exact ⟨rfl, hn⟩

theorem quantify_mirrors (hP : P.Proper) (hs : s.Sound) (q : Quantifier) {n m : Node Ref}
    (h : P.Copies n m) :
    Mirrors (quantify q n) (quantify q m) s (P.state s) (P.Went P.Copies s) := by
  obtain ⟨rfl, hn⟩ := h
  refine Place.bind (accept_went hP hs (by decide) (by decide)).mirrors ?_
  rintro isLazy _ t rfl ht
  cases isLazy with
  | true => exact (repeated_agree ht.sound q false false n hn).mirrors
  | false =>
    refine Place.bind (accept_went hP ht.sound (by decide) (by decide)).mirrors ?_
    rintro possessive _ u rfl hu
    exact (repeated_agree hu.sound q true possessive n hn).mirrors

/-- A sequence read so far at the place is the one read alone. -/
structure CopiesSequence (P : Place) (q q' : Sequence) : Prop where
  elements : P.CopiesAll q.elements q'.elements
  quantifiable : q'.quantifiable = q.quantifiable

theorem copiesSequence_empty : P.CopiesSequence {} {} := ⟨.nil, rfl⟩

theorem copiesSequence_push {q q' : Sequence} (h : P.CopiesSequence q q') {n m : Node Ref}
    (hn : P.Copies n m) : P.CopiesSequence (q.push n) (q'.push m) := ⟨.cons hn h.elements, rfl⟩

theorem copies_sequence {l m : List (Node Ref)} (h : P.CopiesAll l m) :
    P.Copies (Node.sequence l) (Node.sequence m) := by
  induction h with
  | nil => exact ⟨rfl, trivial⟩
  | cons h ht ih =>
    cases ht with
    | nil => exact h
    | cons _ _ => exact ⟨congrArg₂ Node.seq h.1 ih.1, h.2, ih.2⟩

theorem copies_branches {l m : List (Node Ref)} (h : P.CopiesAll l m) :
    P.Copies (Node.branches l) (Node.branches m) := by
  induction h with
  | nil => exact ⟨rfl, trivial⟩
  | cons h ht ih =>
    cases ht with
    | nil => exact h
    | cons _ _ => exact ⟨congrArg₂ Node.alt h.1 ih.1, h.2, ih.2⟩

theorem copies_toNode {q q' : Sequence} (h : P.CopiesSequence q q') :
    P.Copies q.toNode q'.toNode := copies_sequence (List.rel_reverse h.elements)

theorem applyQuantifier_mirrors (hP : P.Proper) (hs : s.Sound) (q : Quantifier) (place : Nat)
    {r r' : Sequence} (h : P.CopiesSequence r r') :
    Mirrors (applyQuantifier q place r) (applyQuantifier q (place + P.offset) r') s (P.state s)
      (P.Went P.CopiesSequence s) := by
  obtain ⟨elements, quantifiable⟩ := r
  obtain ⟨elements', quantifiable'⟩ := r'
  obtain ⟨helements, hquantifiable⟩ := h
  simp only at helements hquantifiable
  subst hquantifiable
  cases helements with
  | nil =>
    cases quantifiable' <;> exact .of_fault rfl
  | cons hn hrest =>
    cases quantifiable' with
    | false => exact .of_fault rfl
    | true =>
      refine Place.bind (quantify_mirrors hP hs q hn) ?_
      rintro n m t hnm ht
      exact .pure ⟨⟨.cons hnm hrest, rfl⟩, rfl, ht.sound.onward⟩

end Quantifiers

section Flags

theorem readFlagLetters_agree (hP : P.Proper) (hs : s.Sound) {n n' : Nat}
    (hn : s.rest.length ≤ n) (hn' : n ≤ n') :
    Agree (readFlagLetters n) (readFlagLetters n') s (P.state s) (P.Went Eq s) := by
  induction n generalizing s n' with
  | zero =>
    cases n' with
    | zero => exact .pure ⟨rfl, rfl, hs.onward⟩
    | succ m =>
      obtain ⟨a, t, _, _, -, h', rfl, rfl, -, hnone, hsome⟩ := takeAs_agree (P := P)
        (f := Flags.ofLetter?) hP hs rfl rfl
      cases a with
      | some f => exact absurd (hsome (Option.some_ne_none f)) (by omega)
      | none =>
        obtain rfl := hnone rfl
        exact ⟨_, t, _, P.state t, run_pure _ _, run_bind_ok h', rfl, rfl, hs.onward⟩
  | succ n ih =>
    obtain ⟨m, rfl⟩ := Nat.exists_eq_add_of_le' (Nat.lt_of_lt_of_le (Nat.succ_pos n) hn')
    refine (takeAs_agree (f := Flags.ofLetter?) hP hs rfl rfl).bind ?_
    rintro letter t _ _ ⟨rfl, rfl, ht, -, hsome⟩
    cases letter with
    | none => exact .pure ⟨rfl, rfl, ht⟩
    | some f =>
      have hlt := hsome (Option.some_ne_none f)
      refine (ih ht.sound (by omega) (Nat.le_of_succ_le_succ hn')).bind ?_
      rintro ⟨count, g⟩ u _ _ ⟨rfl, rfl, hu⟩
      exact .pure ⟨rfl, rfl, ht.trans hu⟩

theorem readFlagChange_mirrors (hP : P.Proper) (hs : s.Sound) :
    Mirrors readFlagChange readFlagChange s (P.state s) (P.Went Eq s) := by
  have hletters {s : ReadState} (hs : s.Sound) :
      Agree (readFlagLetters s.rest.length) (readFlagLetters (P.state s).rest.length) s (P.state s)
        (P.Went Eq s) := by
    refine readFlagLetters_agree hP hs (Nat.le_refl _) ?_
    rw [state, List.length_append]
    exact Nat.le_add_right _ _
  refine Mirrors.step (run_get s) (run_get _) ?_
  refine Place.bind (hletters hs).mirrors ?_
  rintro ⟨-, on⟩ _ t rfl ht
  refine Place.bind (accept_went hP ht.sound (by decide) (by decide)).mirrors ?_
  rintro dash _ u rfl hu
  cases dash with
  | false => exact .pure ⟨rfl, rfl, hu.sound.onward⟩
  | true =>
    refine Mirrors.step (run_get u) (run_get _) ?_
    refine Place.bind (hletters hu.sound).mirrors ?_
    rintro ⟨n, off⟩ _ v rfl hv
    dsimp only
    split
    · exact .of_fault rfl
    · exact .pure ⟨rfl, rfl, hv.sound.onward⟩

theorem setFlags_agree (hs : s.Sound) (f : Flags) :
    Agree (setFlags f) (setFlags f) s (P.state s) (P.Went Eq s) :=
  ⟨⟨⟩, { s with flags := f, skips := f.verbose }, ⟨⟩, _, run_setFlags f s, run_setFlags f _, rfl, rfl,
    Nat.le_refl _, rfl, hs.numbers, hs.named⟩

/-- Flags for the whole pattern start both readings again, with the same flags. -/
theorem applyGlobally_mirrors (hs : s.Sound) (change : FlagChange) :
    Mirrors (applyGlobally change) (applyGlobally change) s (P.state s) (P.Went Eq s) := by
  refine Mirrors.step (run_get s) (run_get _) ?_
  have hglobal : (P.state s).globalFlags = s.globalFlags := rfl
  have hflags : (P.state s).flags = s.flags := rfl
  rw [hglobal, hflags]
  split
  · exact .of_fault rfl
  · split
    · exact .of_restart rfl rfl
    · exact (setFlags_agree hs s.flags).mirrors

end Flags

section Comments

variable {t u : ReadState} {n n' : Nat}

theorem run_skipComment_end (h : s.rest = []) (n : Nat) :
    (skipComment n).run s = .error (.fault ⟨.missing (String.singleton ')'), s.position⟩) := by
  have hexpect : (expect ')').run s =
      .error (.fault ⟨.missing (String.singleton ')'), s.position⟩) := by
    rw [expect, run_bind_ok (run_accept_end h ')')]
    rfl
  cases n with
  | zero => exact hexpect
  | succ n =>
    rw [skipComment, run_bind_ok (run_get s), run_bind_ok (run_nextExact_end h)]
    exact hexpect

theorem run_skipComment_close (h : nextExact.run s = .ok (some ')', t)) :
    (skipComment (n + 1)).run s = (expect ')').run s := by
  rw [skipComment, run_bind_ok (run_get s), run_bind_ok h]
  rfl

theorem run_skipComment_escape {c : Option Char} (h : nextExact.run s = .ok (some '\\', t))
    (h' : nextExact.run t = .ok (c, u)) :
    (skipComment (n + 1)).run s = (skipComment n).run u := by
  rw [skipComment, run_bind_ok (run_get s), run_bind_ok h]
  exact run_bind_ok h'

theorem run_skipComment_other {c : Char} (h : nextExact.run s = .ok (some c, t)) (hclose : c ≠ ')')
    (hback : c ≠ '\\') : (skipComment (n + 1)).run s = (skipComment n).run t := by
  rw [skipComment, run_bind_ok (run_get s), run_bind_ok h]
  split
  · contradiction
  · rename_i heq
    exact absurd (Option.some.inj heq) hclose
  · rename_i heq
    exact absurd (Option.some.inj heq) hback
  · rfl

/-- A comment in parentheses. Reading alone fails if it is not closed. -/
theorem skipComment_mirrors (hs : s.Sound) (hn : s.rest.length ≤ n) (hn' : n ≤ n') :
    Mirrors (skipComment n) (skipComment n') s (P.state s) (P.Went Eq s) := by
  induction n generalizing s n' with
  | zero =>
    exact .of_fault (run_skipComment_end (List.length_eq_zero_iff.mp (Nat.le_zero.mp hn)) 0)
  | succ n ih =>
    obtain ⟨m, rfl⟩ := Nat.exists_eq_add_of_le' (Nat.lt_of_lt_of_le (Nat.succ_pos n) hn')
    have hm := Nat.le_of_succ_le_succ hn'
    rcases nextExact_cases (P := P) hs with ⟨c, t, h, h', ht, -⟩ | ⟨hnil, -⟩
    · have hlt := ht.shorter
      by_cases hclose : c = ')'
      · subst hclose
        exact .of_eq (run_skipComment_close h) (run_skipComment_close h') (expect_close_mirrors hs)
      · by_cases hback : c = '\\'
        · subst hback
          rcases nextExact_escape (P := P) (ht.escaping hs) with
            ⟨d, u, hd, hd', hu, -, -⟩ | ⟨hnil, hd⟩
          · have hle := hu.shorter
            refine .of_eq (run_skipComment_escape h hd) (run_skipComment_escape h' hd')
              ((ih hu.sound (by omega) hm).mono ?_)
            rintro _ v _ _ ⟨-, rfl, hv⟩
            exact ⟨rfl, rfl, ht.onward_trans (hu.trans hv)⟩
          · exact .of_fault ((run_skipComment_escape h hd).trans (run_skipComment_end hnil n))
        · refine .of_eq (run_skipComment_other h hclose hback)
            (run_skipComment_other h' hclose hback)
            ((ih (ht.onward hs hback).sound (by omega) hm).mono ?_)
          rintro _ v _ _ ⟨-, rfl, hv⟩
          exact ⟨rfl, rfl, (ht.onward hs hback).trans hv⟩
    · exact .of_fault (run_skipComment_end hnil (n + 1))

end Comments

section References

/-- A closing parenthesis after a name. -/
theorem expect_close_beside (hb : P.Beside s s') (hs : s.Sound) :
    Mirrors (expect ')') (expect ')') s s' (P.Went Eq s) := by
  rcases hb with rfl | hend
  · exact expect_close_mirrors hs
  · refine .of_fault (e := ⟨.missing (String.singleton ')'), s.position⟩) ?_
    rw [expect, run_bind_ok (run_accept_end hend.alone ')')]
    rfl

theorem readParenthesisedReference_mirrors (hP : P.Proper) (hs : s.Sound)
    (hnumber : digitFirst s.rest = false) (place : Nat) :
    Mirrors (readParenthesisedReference place) (readParenthesisedReference (place + P.offset)) s
      (P.state s) (P.Went P.Copies s) := by
  refine (readName_follow hP hs true fun _ => hnumber).mirrors.bind ?_
  rintro name t _ t' ⟨rfl, htt', ht, hname⟩
  refine (expect_close_beside htt' ht.sound).bind ?_
  rintro _ u _ _ ⟨-, rfl, hu⟩
  refine (isOpenGroup_agree hP hu.sound hname).mirrors.bind ?_
  rintro isOpen v _ _ ⟨rfl, rfl, hv⟩
  cases isOpen with
  | true => exact .of_fault rfl
  | false =>
    refine Mirrors.step (run_flags v) (run_flags _) ?_
    exact .pure ⟨⟨rfl, hname⟩, rfl, (ht.trans hu).trans hv⟩

theorem readCall_mirrors (hP : P.Proper) (hs : s.Sound) (place : Nat) :
    Mirrors (readCall place) (readCall (place + P.offset)) s (P.state s) (P.Went P.Copies s) := by
  refine (readName_follow hP hs false fun h => absurd h Bool.false_ne_true).mirrors.bind ?_
  rintro name t _ t' ⟨rfl, htt', ht, hname⟩
  refine (expect_close_beside htt' ht.sound).bind ?_
  rintro _ u _ _ ⟨-, rfl, hu⟩
  exact .pure ⟨⟨rfl, hname, rfl⟩, rfl, ht.trans hu⟩

end References

end Place

end LineJoin.Pattern
