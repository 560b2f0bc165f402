import LineJoin.Proofs.Pattern.PastedGroups

/-!
# Escapes in a pasted reading

What stands after a backslash stands for the same character, property or node at the place, unless
it is the number of a group.
-/

namespace LineJoin.Pattern

open Reader ReadState

/-- No reference by number is ahead after a backslash. -/
structure ReadState.Escaping (s : ReadState) : Prop where
  numbers : refersByNumber ('\\' :: s.rest) = false
  named : ∀ e ∈ s.groupNames, 0 < e.2

/-- A step that starts nothing again, and after which reading fails. -/
theorem fault_of_bind {α β : Type} {x : Reader α} {f : α → Reader β} {s : ReadState}
    (hx : ∀ more, x.run s ≠ .error (.restart more))
    (hf : ∀ a t, x.run s = .ok (a, t) → ∃ e, (f a).run t = .error (.fault e)) :
    ∃ e, (x >>= f).run s = .error (.fault e) := by
  cases hrun : x.run s with
  | ok p =>
    obtain ⟨e, he⟩ := hf p.1 p.2 hrun
    exact ⟨e, (run_bind_ok hrun).trans he⟩
  | error e =>
    cases e with
    | fault e => exact ⟨e, run_bind_error hrun⟩
    | restart more => exact absurd hrun (hx more)

theorem exists_run_accept (s : ReadState) (c : Char) :
    ∃ b t, (accept c).run s = .ok (b, t) := by
  rw [accept, run_bind_ok (run_get s)]
  split
  · exact ⟨_, _, rfl⟩
  · split
    · exact ⟨_, _, rfl⟩
    · exact ⟨_, _, rfl⟩

theorem run_expect_ne_restart (s : ReadState) (c : Char) (more : Flags) :
    (expect c).run s ≠ .error (.restart more) := by
  obtain ⟨b, t, h⟩ := exists_run_accept s c
  rw [expect, run_bind_ok h]
  intro hrestart
  cases b with
  | false => cases hrestart
  | true => cases hrestart

theorem exists_run_takeWhile (s : ReadState) (p : Char → Bool) :
    ∃ taken t, (Reader.takeWhile p).run s = .ok (taken, t) := by
  rw [Reader.takeWhile, run_bind_ok (run_get s)]
  split
  · exact ⟨_, _, rfl⟩
  · exact ⟨_, _, rfl⟩

theorem run_readName_ne_restart (s : ReadState) (allowNumber : Bool) (more : Flags) :
    (readName allowNumber).run s ≠ .error (.restart more) := by
  obtain ⟨name, t, h⟩ := exists_run_takeWhile s fun c => c != ')' && c != '>'
  rw [readName, run_bind_ok h]
  repeat' split
  all_goals exact nofun

/-- There are no lists of texts that a pattern could refer to. -/
theorem run_readListName (s : ReadState) : ∃ e, readListName.run s = .error (.fault e) :=
  fault_of_bind (run_expect_ne_restart s '<') fun _ t _ =>
    fault_of_bind (run_readName_ne_restart t true) fun _ u _ =>
      fault_of_bind (run_expect_ne_restart u '>') fun _ _ _ => ⟨_, rfl⟩

namespace Place

variable {P : Place} {s s' : ReadState}

/-- A character other than the parenthesis that must be there. -/
theorem expect_follow (hP : P.Proper) (hb : P.Beside s s') (hs : s.Sound) {c : Char}
    (hc : c ≠ ')') (hback : c ≠ '\\') :
    Follow (expect c) (expect c) s s' fun _ t _ u =>
      u = P.state t ∧ s.Onward t ∧ (ahead s).2 = c :: t.rest := by
  have hnone {s : ReadState} (h : (accept c).run s = .ok (false, s)) :
      (expect c).run s = .error (.fault ⟨.missing (String.singleton c), s.position⟩) := by
    rw [expect, run_bind_ok h]
    rfl
  have hsome {s t : ReadState} (h : (accept c).run s = .ok (true, t)) :
      (expect c).run s = .ok (⟨⟩, t) := by
    rw [expect, run_bind_ok h]
    rfl
  rcases accept_cases hP hb hs hc with ⟨h, h', -⟩ | ⟨t, h, h', ht, hahead⟩
  · exact .inr ⟨_, _, hnone h, hnone h'⟩
  · exact .inl ⟨⟨⟩, t, ⟨⟩, P.state t, hsome h, hsome h', rfl, ht.onward hs hback, hahead⟩

theorem readHexDigits_agree (hP : P.Proper) (hs : s.Sound) (n : Nat) :
    Agree (readHexDigits n) (readHexDigits n) s (P.state s) fun a t b u =>
      a = b ∧ (a.1 = true → u = P.state t ∧ s.Onward t) := by
  induction n generalizing s with
  | zero => exact .pure ⟨rfl, fun _ => ⟨rfl, hs.onward⟩⟩
  | succ n ih =>
    rw [readHexDigits]
    rcases next_cases hP hs with ⟨c, t, h, h', ht, -⟩ | ⟨t, u, c, h, h', hc⟩
    · refine Agree.step h h' ?_
      by_cases hhex : (Span.hexValue? c).isSome = true
      · have hback : c ≠ '\\' := by
          rintro rfl
          revert hhex
          decide
        have ht := ht.onward hs hback
        simp only [if_pos hhex]
        refine Agree.bind (ih ht.sound) ?_
        rintro ⟨complete, rest⟩ u _ u' ⟨rfl, hu⟩
        refine .pure ⟨rfl, fun hcomplete => ?_⟩
        exact ⟨(hu hcomplete).1, ht.trans (hu hcomplete).2⟩
      · simp only [if_neg hhex]
        exact .pure ⟨rfl, fun h => absurd h Bool.false_ne_true⟩
    · refine Agree.step h h' ?_
      rcases hc with rfl | rfl
      · exact .pure ⟨rfl, fun h => absurd h Bool.false_ne_true⟩
      · exact .pure ⟨rfl, fun h => absurd h Bool.false_ne_true⟩

theorem readHexEscape_mirrors (hP : P.Proper) (hs : s.Sound) (letter : Char) (n : Nat) :
    Mirrors (readHexEscape letter n) (readHexEscape letter n) s (P.state s)
      (P.Went P.CopiesAtom s) := by
  refine Mirrors.step (run_position s) (run_position _) ?_
  refine (readHexDigits_agree hP hs n).mirrors.bind ?_
  rintro ⟨complete, digits⟩ t _ u ⟨rfl, h⟩
  cases complete with
  | false => exact .of_fault rfl
  | true =>
    obtain ⟨rfl, ht⟩ := h rfl
    simp only [Bool.not_true, Bool.false_eq_true, if_false]
    split
    · exact .pure ⟨copiesAtom_code _, rfl, ht⟩
    · exact .of_fault rfl

theorem readProperty_mirrors [CharacterNames] (hP : P.Proper) (hs : s.Sound) (positive : Bool) :
    Mirrors (readProperty positive) (readProperty positive) s (P.state s)
      (P.Went P.CopiesAtom s) := by
  refine Place.bind (readBraced_agree hP hs positive).mirrors ?_
  rintro braced _ t rfl ht
  cases braced with
  | some found =>
    obtain ⟨sign, property, name⟩ := found
    refine (findProperty_follow false property name).mirrors.bind ?_
    rintro p _ _ _ ⟨rfl, rfl, rfl⟩
    exact .pure ⟨copiesAtom_property _ _, rfl, ht.sound.onward⟩
  | none =>
    refine (takeAs_agree (f := fun c =>
      if ['C', 'L', 'M', 'N', 'P', 'S', 'Z'].contains c then some c else none) hP ht.sound
      (by decide) (by decide)).mirrors.bind ?_
    rintro letter u _ _ ⟨rfl, rfl, hu, -, -⟩
    cases letter with
    | some c =>
      refine (findProperty_follow false none [c]).mirrors.bind ?_
      rintro p _ _ _ ⟨rfl, rfl, rfl⟩
      exact .pure ⟨copiesAtom_property _ _, rfl, hu⟩
    | none => exact .pure ⟨copiesAtom_code _, rfl, hu⟩

theorem takeOctal_agree (hP : P.Proper) (hs : s.Sound) (n : Nat) :
    Agree (readOctal.takeOctal n) (readOctal.takeOctal n) s (P.state s) (P.Went Eq s) := by
  induction n generalizing s with
  | zero => exact .pure ⟨rfl, rfl, hs.onward⟩
  | succ n ih =>
    refine (takeAs_agree (f := fun c => if isOctal c then some c else none) hP hs (by decide)
      (by decide)).bind ?_
    rintro digit t _ _ ⟨rfl, rfl, ht, -, -⟩
    cases digit with
    | none => exact .pure ⟨rfl, rfl, ht⟩
    | some c =>
      refine (ih ht.sound).bind ?_
      rintro rest u _ _ ⟨rfl, rfl, hu⟩
      exact .pure ⟨rfl, rfl, ht.trans hu⟩

theorem readOctal_mirrors (hP : P.Proper) (hs : s.Sound) (first : Char) :
    Mirrors (readOctal first) (readOctal first) s (P.state s) (P.Went P.CopiesAtom s) := by
  refine Place.bind (takeOctal_agree hP hs 2).mirrors ?_
  rintro more _ t rfl ht
  by_cases hall : (first :: more).all isOctal = true
  · simp only [if_pos hall]
    exact .pure ⟨copiesAtom_code _, rfl, ht.sound.onward⟩
  · simp only [if_neg hall]
    exact .of_fault rfl

/-- A digit that is not zero and does not begin the number of a group begins an octal escape. -/
theorem readNumeric_mirrors (hs : s.Sound) {first : Char} (hdigit : isDigit first = true)
    (hzero : first ≠ '0') (hnumber : groupNumber first s.rest = false) :
    Mirrors (readNumeric first) (readNumeric first) s (P.state s) (P.Went P.CopiesAtom s) := by
  have hoctal : (isOctal first && octalPair s.rest) = true := by
    simpa [groupNumber, hdigit, hzero] using hnumber
  rw [Bool.and_eq_true] at hoctal
  obtain ⟨hfirst, hpair⟩ := hoctal
  have hdigits {c : Char} (h : isOctal c = true) : isDigit c = true := by
    simp only [isOctal, isDigit, Bool.and_eq_true, decide_eq_true_eq] at h ⊢
    exact ⟨h.1, Char.le_trans h.2 (by decide)⟩
  have hvisible {c : Char} (h : isOctal c = true) : visible c = true := by
    have hrange : ('0' ≤ c && c ≤ '9') = true := hdigits h
    refine hexValue?_visible ?_
    rw [Span.hexValue?, if_pos hrange]
    rfl
  have hplain {c : Char} (h : isOctal c = true) : c ≠ '\\' := by
    rintro rfl
    revert h
    decide
  obtain ⟨c, d, rest, hrest, hc, hd⟩ : ∃ c d rest, s.rest = c :: d :: rest ∧ isOctal c = true ∧
      isOctal d = true := by
    cases hrest : s.rest with
    | nil =>
      rw [hrest] at hpair
      cases hpair
    | cons c more =>
      rw [hrest] at hpair
      cases more with
      | nil => cases hpair
      | cons d rest =>
        rw [octalPair, Bool.and_eq_true] at hpair
        exact ⟨c, d, rest, rfl, hpair⟩
  have hnumbers := hs.numbers
  rw [hrest] at hnumbers
  have hthird := refersByNumber_of_cons (refersByNumber_of_cons hnumbers (hplain hc)) (hplain hd)
  have hpasted : (P.state s).Sees c ((d :: rest) ++ P.tail) := sees_visible (by
    rw [state, hrest]
    rfl) (hvisible hc)
  have hpasted' : (P.state (s.past 1 (d :: rest))).Sees d (rest ++ P.tail) :=
    sees_visible rfl (hvisible hd)
  have hboth : (isOctal first && isOctal c) = true := by rw [hfirst, hc]; rfl
  refine Mirrors.step (run_takeDigit (sees_visible hrest (hvisible hc)) (hdigits hc))
    (run_takeDigit hpasted (hdigits hc)) ?_
  rw [state_past]
  simp only [if_pos hboth]
  refine Mirrors.step (run_takeDigit (sees_visible rfl (hvisible hd)) hd)
    (run_takeDigit hpasted' hd) ?_
  rw [state_past]
  refine .pure ⟨copiesAtom_code _, rfl, ⟨?_, rfl, hthird, hs.named⟩⟩
  rw [hrest]
  exact Nat.le_succ_of_le (Nat.le_succ _)

theorem numberAfter_ahead {c : Char} {rest : List Char} (h : numberAfter c s.rest = false)
    (hahead : (ahead s).2 = c :: rest) (hc : visible c = true) : digitFirst rest = false := by
  have hskip : (skipFrom false 0 s.rest).2 = c :: rest := by
    rw [ahead] at hahead
    split at hahead
    · have hshift := skipFrom_shift false 0 s.position s.rest
      rw [Nat.zero_add] at hshift
      rw [hshift] at hahead
      exact hahead
    · have hahead : s.rest = c :: rest := hahead
      simp only [visible, Bool.and_eq_true, Bool.not_eq_true', bne_iff_ne] at hc
      rw [hahead, skipFrom, hc.1, if_neg Bool.false_ne_true, if_neg hc.2]
  rw [numberAfter, hskip] at h
  simpa using h

/-- A reference by name after `g`. -/
theorem reference_follow (hP : P.Proper) (hs : s.Sound) (hnumber : numberAfter '<' s.rest = false) :
    Follow readGroupEscape.reference readGroupEscape.reference s (P.state s)
      (P.Went P.CopiesAtom s) := by
  refine (expect_follow hP (.inl rfl) hs (by decide) (by decide)).bind ?_
  rintro _ t _ _ ⟨rfl, ht, hahead⟩
  have hdigit := numberAfter_ahead hnumber hahead (by decide)
  refine Follow.step (run_position t) (run_position _) ?_
  refine (readName_follow hP ht.sound true fun _ => hdigit).bind ?_
  rintro name u _ u' ⟨rfl, huu', hu, hname⟩
  refine (expect_follow hP huu' hu.sound (by decide) (by decide)).bind ?_
  rintro _ v _ _ ⟨rfl, hv, -⟩
  obtain ⟨isOpen, w, _, _, h, h', rfl, rfl, hw⟩ := isOpenGroup_agree hP hv.sound hname
  refine Follow.step h h' ?_
  cases isOpen with
  | true => exact .inr ⟨_, _, rfl, rfl⟩
  | false =>
    refine .inl ((makeBackref_agree hw.sound hname t.position).mono ?_)
    rintro a x b y ⟨hab, rfl, hx⟩
    exact ⟨hab, rfl, (((ht.trans hu).trans hv).trans hw).trans hx⟩

theorem readGroupEscape_mirrors (hP : P.Proper) (hs : s.Sound)
    (hnumber : numberAfter '<' s.rest = false) :
    Mirrors readGroupEscape readGroupEscape s (P.state s) (P.Went P.CopiesAtom s) := by
  refine Mirrors.step (run_get s) (run_get _) ?_
  rcases reference_follow hP hs hnumber with ⟨a, t, b, u, h, h', hp⟩ | ⟨e, e', h, h'⟩
  · simp only [h, h']
    exact .of_run rfl rfl hp
  · simp only [h, h']
    exact .pure ⟨copiesAtom_code _, rfl, hs.onward⟩

/-- The character after a backslash. -/
theorem nextExact_escape (hs : s.Escaping) :
    (∃ c t, nextExact.run s = .ok (some c, t) ∧
      nextExact.run (P.state s) = .ok (some c, P.state t) ∧ s.Onward t ∧
      groupNumber c t.rest = false ∧ (c = 'g' → numberAfter '<' t.rest = false)) ∨
    s.rest = [] ∧ nextExact.run s = .ok (none, s) := by
  cases hrest : s.rest with
  | nil => exact .inr ⟨rfl, run_nextExact_end hrest⟩
  | cons c rest =>
    have hnumbers := hs.numbers
    rw [hrest] at hnumbers
    obtain ⟨hnumber, hname, hnumbers⟩ := refersByNumber_of_escape hnumbers
    refine .inl ⟨c, s.past 1 rest, run_nextExact hrest, run_nextExact_state hrest,
      ⟨?_, rfl, hnumbers, hs.named⟩, hnumber, hname⟩
    rw [hrest]
    exact Nat.le_succ _

theorem lineEnding_copies : P.Copies lineEnding lineEnding := ⟨rfl, ⟨trivial, trivial⟩, trivial⟩

theorem went_code (hs : s.Sound) (c : Nat) :
    Mirrors (pure (.code c)) (pure (.code c)) s (P.state s) (P.Went P.CopiesAtom s) :=
  .pure ⟨copiesAtom_code c, rfl, hs.onward⟩

theorem classEscape_copies {c : Char} {a : Atom} (h : classEscape? c = some a) :
    P.CopiesAtom a a := by
  rw [classEscape?.eq_def] at h
  split at h <;> cases h <;> exact copiesAtom_property _ _

theorem graphemeCluster_copies : P.Copies graphemeCluster graphemeCluster :=
  ⟨rfl, trivial, trivial⟩

theorem placeEscape_copies {inSet : Bool} {c : Char} {n : Node Ref}
    (h : (if inSet then none else placeEscape? c) = some n) : P.Copies n n := by
  split at h
  · cases h
  · rw [placeEscape?.eq_def] at h
    split at h <;> cases h <;> exact ⟨rfl, trivial⟩

/-- A letter that stands for a class or for a control character. -/
theorem letterEscape_mirrors (hs : s.Sound) (c : Char) :
    let x : Reader Atom := match classEscape? c with
      | some atom => return atom
      | none =>
        match controlEscape? c with
        | some n => return .code n
        | none => fail (.badEscape c)
    Mirrors x x s (P.state s) (P.Went P.CopiesAtom s) := by
  dsimp only
  split
  · rename_i h
    exact .pure ⟨classEscape_copies h, rfl, hs.onward⟩
  · split
    · exact went_code hs _
    · exact .of_fault rfl

/-- An escape stands for the same at the place as alone. -/
theorem readEscape_mirrors [CharacterNames] (hP : P.Proper) (hs : s.Escaping) (inSet : Bool) :
    Mirrors (readEscape inSet) (readEscape inSet) s (P.state s) (P.Went P.CopiesAtom s) := by
  rcases nextExact_escape (P := P) hs with ⟨c, t, h, h', ht, hnumber, hname⟩ | ⟨-, h⟩
  · refine Place.step h h' ht ?_
    have hsound := ht.sound
    dsimp only
    split
    · exact readHexEscape_mirrors hP hsound c _
    · split
      · rename_i hg
        rw [Bool.and_eq_true, decide_eq_true_eq] at hg
        exact readGroupEscape_mirrors hP hsound (hname hg.1)
      · split
        · exact (readNamedCharacter_follow hP hsound).mirrors
        · split
          · exact readProperty_mirrors hP hsound _
          · split
            · exact .pure ⟨copiesAtom_node lineEnding_copies, rfl, hsound.onward⟩
            · split
              · exact .pure ⟨copiesAtom_node graphemeCluster_copies, rfl, hsound.onward⟩
              · split
                · obtain ⟨e, he⟩ := run_readListName t
                  exact .of_fault he
                · split
                  · rename_i hdigit
                    split
                    · exact readOctal_mirrors hP hsound c
                    · rename_i hzero
                      rw [Bool.or_eq_true, not_or, decide_eq_true_eq] at hzero
                      exact readNumeric_mirrors hsound hdigit hzero.2 hnumber
                  · split
                    · split
                      · rename_i hplace
                        exact .pure ⟨copiesAtom_node (placeEscape_copies hplace), rfl, hsound.onward⟩
                      · exact letterEscape_mirrors hsound c
                    · exact went_code hsound _
  · exact .of_fault (run_bind_ok h)

end Place

end LineJoin.Pattern
