import LineJoin.Proofs.Pattern.PastedPieces

/-!
# Verbs and limits of errors in a pasted reading

Limits of errors are tried where a brace begins no quantifier. Both readings find the same limits, or
none, and whatever is beyond exact matching is refused alone already. The steps inside the braces are
taken from places that stand beside each other, as a comment may end the text there.
-/

namespace LineJoin.Pattern

open Reader ReadState

namespace Place

variable {P : Place} {s s' : ReadState} {α β : Type}

/-- From places beside each other both readers give the same and go on, or both fail. -/
def Steps (P : Place) (x y : Reader α) : Prop :=
  ∀ s s', P.Beside s s' → s.Sound →
    Follow x y s s' fun a t b u => a = b ∧ P.Beside t u ∧ s.Onward t

/-- From places beside each other both readers find the same, and go on if they find anything, or
both fail. -/
def Tries (P : Place) (x y : Reader (Option α)) : Prop :=
  ∀ s s', P.Beside s s' → s.Sound →
    Follow x y s s' fun a t b u => a = b ∧ (a ≠ none → P.Beside t u ∧ s.Onward t)

section Combining

variable {x y : Reader α} {f g : α → Reader (Option β)}

theorem steps_pure (a : α) : P.Steps (pure a) (pure a) := fun _ _ hb hs =>
  .inl (.pure ⟨rfl, hb, hs.onward⟩)

theorem steps_bind {f g : α → Reader β} (h : P.Steps x y) (k : ∀ a, P.Steps (f a) (g a)) :
    P.Steps (x >>= f) (y >>= g) := by
  intro s s' hb hs
  refine (h s s' hb hs).bind ?_
  rintro a t _ u ⟨rfl, htu, ht⟩
  refine (k a t u htu ht.sound).imp_left fun hagree => hagree.mono ?_
  rintro b v _ w ⟨hb, hvw, hv⟩
  exact ⟨hb, hvw, ht.trans hv⟩

theorem tries_none : P.Tries (pure (none : Option α)) (pure none) := fun _ _ _ _ =>
  .inl (.pure ⟨rfl, fun h => absurd rfl h⟩)

theorem tries_some (a : α) : P.Tries (pure (some a)) (pure (some a)) := fun _ _ hb hs =>
  .inl (.pure ⟨rfl, fun _ => ⟨hb, hs.onward⟩⟩)

theorem tries_failAt (p : Problem) (place place' : Nat) :
    P.Tries (failAt place p : Reader (Option α)) (failAt place' p) := fun _ _ _ _ =>
  .inr ⟨_, _, rfl, rfl⟩

theorem tries_fail (p : Problem) : P.Tries (fail p : Reader (Option α)) (fail p) := fun _ _ _ _ =>
  .inr ⟨_, _, rfl, rfl⟩

theorem tries_bind (h : P.Steps x y) (k : ∀ a, P.Tries (f a) (g a)) :
    P.Tries (x >>= f) (y >>= g) := by
  intro s s' hb hs
  refine (h s s' hb hs).bind ?_
  rintro a t _ u ⟨rfl, htu, ht⟩
  refine (k a t u htu ht.sound).imp_left fun hagree => hagree.mono ?_
  rintro b v _ w ⟨hb, hgo⟩
  exact ⟨hb, fun hne => ⟨(hgo hne).1, ht.trans (hgo hne).2⟩⟩

/-- Where nothing is found nothing is found in the end. -/
theorem tries_bind_found {x y : Reader (Option α)} {f g : Option α → Reader (Option β)}
    (h : P.Tries x y) (hf : f none = pure none) (hg : g none = pure none)
    (k : ∀ a, P.Tries (f (some a)) (g (some a))) : P.Tries (x >>= f) (y >>= g) := by
  intro s s' hb hs
  refine (h s s' hb hs).bind ?_
  rintro a t _ u ⟨rfl, hgo⟩
  cases a with
  | none =>
    rw [hf, hg]
    exact .inl (.pure ⟨rfl, fun h => absurd rfl h⟩)
  | some a =>
    obtain ⟨htu, ht⟩ := hgo (Option.some_ne_none a)
    refine (k a t u htu ht.sound).imp_left fun hagree => hagree.mono ?_
    rintro b v _ w ⟨hb, hgo⟩
    exact ⟨hb, fun hne => ⟨(hgo hne).1, ht.trans (hgo hne).2⟩⟩

/-- Places are only kept for faults. -/
theorem tries_position {f g : Nat → Reader (Option β)} (k : ∀ p p', P.Tries (f p) (g p')) :
    P.Tries (position >>= f) (position >>= g) := fun s s' hb hs =>
  Follow.step (run_position s) (run_position s') (k _ _ s s' hb hs)

theorem steps_attempt {x y : Reader (Option α)} (h : P.Tries x y) :
    P.Steps (attempt x) (attempt y) := by
  intro s s' hb hs
  rcases h s s' hb hs with ⟨a, t, b, u, hx, hy, rfl, hgo⟩ | ⟨e, e', hx, hy⟩
  · cases a with
    | none =>
      exact .inl ⟨none, s, none, s', run_attempt_none hx, run_attempt_none hy, rfl, hb, hs.onward⟩
    | some a =>
      exact .inl ⟨_, t, _, u, run_attempt_some hx, run_attempt_some hy, rfl,
        hgo (Option.some_ne_none a)⟩
  · exact .inr ⟨e, e', (run_bind_ok (run_get s)).trans (run_bind_error hx),
      (run_bind_ok (run_get s')).trans (run_bind_error hy)⟩

end Combining

section Characters

theorem steps_accept (hP : P.Proper) {c : Char} (hc : c ≠ ')') (hback : c ≠ '\\') :
    P.Steps (accept c) (accept c) := fun _ _ hb hs =>
  .inl ((accept_agree hP hb hs hc hback).mono fun _ _ _ _ h => ⟨h.1, h.2.2.1, h.2.2.2⟩)

theorem run_takeWhile_end (h : s.rest = []) (p : Char → Bool) :
    (Reader.takeWhile p).run s = .ok ([], s) := by
  have hs : ({ s with rest := [] } : ReadState) = s := by
    cases s
    cases h
    rfl
  rw [Reader.takeWhile, run_bind_ok (run_get s)]
  split
  · rw [h]
    exact congrArg (fun t => Except.ok (([] : List Char), t)) hs
  · rw [takeExactly, run_bind_ok (run_get s), h]
    exact congrArg (fun t => Except.ok (([] : List Char), t)) hs

theorem steps_takeDigits (hP : P.Proper) :
    P.Steps (Reader.takeWhile isDigit) (Reader.takeWhile isDigit) := by
  rintro s s' (rfl | hend) hs
  · obtain ⟨digits, t, u, h, h', htu, ht, -⟩ := takeWhile_cases (p := isDigit) hP hs (by decide)
      fun h => absurd h (by decide)
    exact .inl ⟨digits, t, digits, u, h, h', rfl, htu, ht⟩
  · exact .inl ⟨[], s, [], s', run_takeWhile_end hend.alone _, run_takeWhile_end hend.pasted _, rfl,
      .inr hend, hs.onward⟩

/-- A character that may differ between the readings, or that reading alone cannot go on from. -/
def Uncommon (c : Option Char) : Prop := c = none ∨ c = some ')' ∨ c = some '\\'

/-- The next character is taken in both readings, or it is one that nothing is read from. -/
theorem next_beside (hP : P.Proper) (hb : P.Beside s s') (hs : s.Sound) :
    (∃ c t, next.run s = .ok (some c, t) ∧ next.run s' = .ok (some c, P.state t) ∧ s.Onward t) ∨
      ∃ c t d u, next.run s = .ok (c, t) ∧ next.run s' = .ok (d, u) ∧ Uncommon c ∧ Uncommon d := by
  rcases hb with rfl | hend
  · rcases next_cases hP hs with ⟨c, t, h, h', ht, -⟩ | ⟨t, u, c, h, h', hc⟩
    · by_cases hback : c = '\\'
      · subst hback
        exact .inr ⟨_, t, _, P.state t, h, h', .inr (.inr rfl), .inr (.inr rfl)⟩
      · exact .inl ⟨c, t, h, h', ht.onward hs hback⟩
    · exact .inr ⟨none, t, c, u, h, h', .inl rfl, hc.imp_right .inl⟩
  · exact .inr ⟨none, s, none, s', run_next_end hend.alone, run_next_end hend.pasted, .inl rfl,
      .inl rfl⟩

/-- Nothing is found where the next character is one that nothing is read from. -/
theorem tries_next (hP : P.Proper) {f g : Option Char → Reader (Option β)}
    (hf : ∀ c, Uncommon c → ∀ t, (f c).run t = .ok (none, t))
    (hg : ∀ c, Uncommon c → ∀ t, (g c).run t = .ok (none, t))
    (k : ∀ c, P.Tries (f (some c)) (g (some c))) : P.Tries (next >>= f) (next >>= g) := by
  intro s s' hb hs
  rcases next_beside hP hb hs with ⟨c, t, h, h', ht⟩ | ⟨c, t, d, u, h, h', hc, hd⟩
  · refine Follow.step h h' ((k c t _ (.inl rfl) ht.sound).imp_left fun hagree => hagree.mono ?_)
    rintro b v _ w ⟨hb, hgo⟩
    exact ⟨hb, fun hne => ⟨(hgo hne).1, ht.trans (hgo hne).2⟩⟩
  · exact Follow.step h h' (.inl ⟨none, t, none, u, hf c hc t, hg d hd u, rfl, fun h => absurd rfl h⟩)

end Characters

section Limits

theorem steps_readLimit (hP : P.Proper) : P.Steps readLimit readLimit := by
  intro s s' hb hs
  refine Follow.step (run_position s) (run_position s') ?_
  refine (steps_takeDigits hP s s' hb hs).bind ?_
  rintro digits t _ u ⟨rfl, htu, ht⟩
  split
  · exact .inr ⟨_, _, rfl, rfl⟩
  · exact .inl (.pure ⟨rfl, htu, ht⟩)

theorem steps_readComparison (hP : P.Proper) : P.Steps readComparison readComparison := by
  refine steps_bind (steps_accept hP (by decide) (by decide)) fun found => ?_
  cases found with
  | false => exact steps_pure none
  | true =>
    exact steps_bind (steps_accept hP (by decide) (by decide)) fun inclusive => steps_pure _

theorem steps_checkKind (l : Limits) (c : Option Char) : P.Steps (checkKind l c) (checkKind l c) := by
  rw [checkKind]
  split
  · split
    · exact fun _ _ _ _ => .inr ⟨_, _, rfl, rfl⟩
    · exact steps_pure _
  · exact steps_pure _

theorem run_checkKind_uncommon (l : Limits) {c : Option Char} (hc : Uncommon c) (t : ReadState) :
    (checkKind l c).run t = .ok (none, t) := by
  rcases hc with rfl | rfl | rfl <;> rfl

theorem tries_readMost (hP : P.Proper) (l : Limits) (c : Char) :
    P.Tries (readMost l c) (readMost l c) := by
  refine tries_bind (steps_checkKind l (some c)) fun found => ?_
  cases found with
  | none => exact tries_none
  | some kind =>
    refine tries_bind (steps_readComparison hP) fun found => ?_
    cases found with
    | none => exact tries_some _
    | some inclusive =>
      refine tries_position fun p p' => tries_bind (steps_readLimit hP) fun most => ?_
      split
      · exact tries_some _
      · split
        · exact tries_failAt _ p p'
        · exact tries_some _

theorem tries_readBetween (hP : P.Proper) (l : Limits) :
    P.Tries (readBetween l) (readBetween l) := by
  refine tries_position fun p p' => tries_bind (steps_readLimit hP) fun low => ?_
  refine tries_bind (steps_readComparison hP) fun found => ?_
  cases found with
  | none => exact tries_none
  | some fromLow =>
    refine tries_next hP (fun c hc t => run_bind_ok (run_checkKind_uncommon l hc t))
      (fun c hc t => run_bind_ok (run_checkKind_uncommon l hc t)) fun c => ?_
    refine tries_bind (steps_checkKind l (some c)) fun found => ?_
    cases found with
    | none => exact tries_none
    | some kind =>
      refine tries_bind (steps_readComparison hP) fun found => ?_
      cases found with
      | none => exact tries_none
      | some toHigh =>
        refine tries_bind (steps_readLimit hP) fun high => ?_
        by_cases h : (if fromLow then low else low + 1) < if toHigh then high + 1 else high
        · simp only [if_pos h]
          exact tries_some _
        · simp only [if_neg h]
          exact tries_failAt _ p p'

theorem tries_readKindLimit (hP : P.Proper) (l : Limits) :
    P.Tries (readKindLimit l) (readKindLimit l) := by
  intro s s' hb hs
  have hnone {t u : ReadState} : Follow (pure (none : Option Limits)) (pure none) t u
      fun a t b u => a = b ∧ (a ≠ none → P.Beside t u ∧ s.Onward t) :=
    .inl (.pure ⟨rfl, fun h => absurd rfl h⟩)
  refine Follow.step (run_get s) (run_get s') ?_
  rcases next_beside hP hb hs with ⟨c, t, h, h', ht⟩ | ⟨c, t, d, u, h, h', hc, hd⟩
  · refine Follow.step h h' ?_
    dsimp only
    split
    · refine (tries_readMost hP l c t _ (.inl rfl) ht.sound).imp_left fun hagree => hagree.mono ?_
      rintro b v _ w ⟨hb, hgo⟩
      exact ⟨hb, fun hne => ⟨(hgo hne).1, ht.trans (hgo hne).2⟩⟩
    · split
      · exact Follow.step (run_set t s) (run_set _ s') (tries_readBetween hP l s s' hb hs)
      · exact hnone
  · refine Follow.step h h' ?_
    rcases hc with rfl | rfl | rfl <;> rcases hd with rfl | rfl | rfl <;> exact hnone

theorem tries_readCost (hP : P.Proper) (costs : List Char) :
    P.Tries (readCost costs) (readCost costs) := by
  refine tries_bind (steps_takeDigits hP) fun _ => tries_next hP ?_ ?_ fun c => ?_
  · rintro c (rfl | rfl | rfl) t <;> rfl
  · rintro c (rfl | rfl | rfl) t <;> rfl
  dsimp only
  split
  · split
    · exact tries_fail _
    · exact tries_some _
  · exact tries_none

theorem tries_readCosts (hP : P.Proper) (n : Nat) (costs : List Char) :
    P.Tries (readCosts n costs) (readCosts n costs) := by
  induction n generalizing costs with
  | zero => exact tries_none
  | succ n ih =>
    refine tries_bind_found (tries_readCost hP costs) rfl rfl fun costs => ?_
    refine tries_bind (steps_accept hP (by decide) (by decide)) fun more => ?_
    cases more with
    | false => exact tries_some costs
    | true => exact ih costs

theorem tries_readCostLimit (hP : P.Proper) (l : Limits) :
    P.Tries (readCostLimit l) (readCostLimit l) := by
  rw [readCostLimit]
  split
  · exact tries_fail _
  · refine tries_bind_found (tries_readCosts hP 4 []) rfl rfl fun _ => ?_
    refine tries_bind (steps_readComparison hP) fun found => ?_
    cases found with
    | none => exact tries_none
    | some inclusive =>
      refine tries_bind (steps_takeDigits hP) fun digits => ?_
      split
      · exact tries_fail _
      · split
        · exact tries_fail _
        · exact tries_some _

theorem tries_readOneLimit (hP : P.Proper) (l : Limits) :
    P.Tries (readOneLimit l) (readOneLimit l) := by
  refine tries_bind (steps_attempt (tries_readKindLimit hP l)) fun found => ?_
  cases found with
  | none => exact tries_readCostLimit hP l
  | some l => exact tries_some l

theorem tries_readLimitList (hP : P.Proper) (n : Nat) (l : Limits) :
    P.Tries (readLimitList n l) (readLimitList n l) := by
  induction n generalizing l with
  | zero => exact tries_none
  | succ n ih =>
    refine tries_bind_found (tries_readOneLimit hP l) rfl rfl fun l => ?_
    refine tries_bind (steps_accept hP (by decide) (by decide)) fun more => ?_
    cases more with
    | false => exact tries_some l
    | true => exact ih l

theorem closeLimits_mirrors (hP : P.Proper) (hs : s.Sound) (l : Limits) :
    Mirrors (closeLimits l) (closeLimits l) s (P.state s) (P.Went Eq s) := by
  refine Place.bind (accept_went hP hs (by decide) (by decide)).mirrors ?_
  rintro closed _ t rfl ht
  cases closed with
  | false => exact .of_fault rfl
  | true => exact .pure ⟨rfl, rfl, ht.sound.onward⟩

theorem run_closeLimits_end (h : s.rest = []) (l : Limits) :
    (closeLimits l).run s = .error (.fault ⟨.unclosedLimits, s.position⟩) :=
  run_bind_ok (run_accept_end h '\x7d')

/-- Limits that allow errors are refused alone already. -/
theorem applyLimits_mirrors (hs : s.Sound) (l : Limits) (place : Nat) {q q' : Sequence}
    (h : P.CopiesSequence q q') :
    Mirrors (applyLimits l place q) (applyLimits l (place + P.offset) q') s (P.state s)
      (P.Went P.CopiesSequence s) := by
  rw [applyLimits, applyLimits]
  split
  · exact .pure ⟨h, rfl, hs.onward⟩
  · split
    · exact .of_fault rfl
    · exact .of_fault rfl

variable [CharacterNames]

theorem readErrorTest_mirrors (hP : P.Proper) (hs : s.Sound) :
    Mirrors readErrorTest readErrorTest s (P.state s) (P.Went Eq s) := by
  refine Mirrors.step (run_position s) (run_position _) ?_
  rcases next_cases hP hs with ⟨c, t, h, h', ht, -⟩ | ⟨t, u, c, h, -, -⟩
  · refine Mirrors.step h h' ?_
    dsimp only
    split
    · rename_i hback
      subst hback
      refine (readEscape_mirrors hP (ht.escaping hs) false).bind ?_
      rintro _ u _ _ ⟨-, rfl, hu⟩
      exact .pure ⟨rfl, rfl, ht.onward_trans hu⟩
    · rename_i hback
      have hst := ht.onward hs hback
      split
      · refine (readSet_mirrors hP hst.sound).bind ?_
        rintro _ u _ _ ⟨-, rfl, hu⟩
        exact .pure ⟨rfl, rfl, hst.trans hu⟩
      · split
        · exact .of_fault rfl
        · exact .pure ⟨rfl, rfl, hst⟩
  · exact .of_fault (run_bind_ok h)

/-- The same limits are found, or none. -/
theorem readLimits_mirrors (hP : P.Proper) (hs : s.Sound) :
    Mirrors readLimits readLimits s (P.state s) (P.Went Eq s) := by
  rcases tries_readLimitList hP 6 {} s (P.state s) (.inl rfl) hs with
    ⟨found, t, _, u, h, h', rfl, hgo⟩ | ⟨e, _, h, -⟩
  · cases found with
    | none =>
      exact Mirrors.step (run_attempt_none h) (run_attempt_none h') (.pure ⟨rfl, rfl, hs.onward⟩)
    | some l =>
      obtain ⟨hbeside, ht⟩ := hgo (Option.some_ne_none l)
      have hclose {v : ReadState} (hv : t.Onward v) :
          Mirrors (closeLimits l) (closeLimits l) v (P.state v) (P.Went Eq t) :=
        (closeLimits_mirrors hP hv.sound l).mono fun _ _ _ _ hw => ⟨hw.1, hw.2.1, hv.trans hw.2.2⟩
      refine Mirrors.step (run_attempt_some h) (run_attempt_some h') ?_
      rcases hbeside with rfl | hend
      · refine (Place.bind (accept_went hP ht.sound (by decide) (by decide)).mirrors ?_).mono
          fun _ _ _ _ hw => ⟨hw.1, hw.2.1, ht.trans hw.2.2⟩
        rintro tested _ v rfl hv
        cases tested with
        | false => exact closeLimits_mirrors hP hv.sound l
        | true =>
          refine Place.bind (readErrorTest_mirrors hP hv.sound) ?_
          rintro _ _ w rfl hw
          exact closeLimits_mirrors hP hw.sound l
      · exact .of_fault ((run_bind_ok (run_accept_end hend.alone ':')).trans
          (run_closeLimits_end hend.alone l))
  · exact .of_fault (run_bind_error ((run_bind_ok (run_get s)).trans (run_bind_error h)))

theorem readBrace_mirrors (hP : P.Proper) (hs : s.Sound) (c : Char) :
    Mirrors (readBrace c) (readBrace c) s (P.state s) (P.Went Eq s) := by
  rw [readBrace]
  split
  · exact readLimits_mirrors hP hs
  · exact .pure ⟨rfl, rfl, hs.onward⟩

end Limits

section Verbs

/-- Reading has gone on in the same way, or nothing was found. -/
def WentIfFound (P : Place) (s : ReadState) (a : Option (Node Ref)) (t : ReadState)
    (b : Option (Node Ref)) (u : ReadState) : Prop :=
  a = none ∧ b = none ∨ P.Went (Option.Rel P.Copies) s a t b u

/-- A verb that is read alone is read at the place; a group may begin like one. -/
theorem readVerb_mirrors (hP : P.Proper) (hs : s.Sound) :
    Mirrors readVerb readVerb s (P.state s) (P.WentIfFound s) := by
  refine Mirrors.step (run_position s) (run_position _) ?_
  obtain ⟨word, t, u, h, h', htu, ht, -⟩ := takeWhile_cases
    (p := fun c => c != ')' && c != '>') hP hs (by decide) (by decide)
  refine Mirrors.step h h' ?_
  have hnone : Mirrors (pure none) (pure none) t u (P.WentIfFound s) := .pure (.inl ⟨rfl, rfl⟩)
  have hnever {v : ReadState} (hv : t.Onward v) :
      Mirrors (pure (some .never)) (pure (some .never)) v (P.state v) (P.WentIfFound s) :=
    .pure (.inr ⟨.some ⟨rfl, trivial⟩, rfl, ht.trans hv⟩)
  have hclosed {x y : Reader (Option (Node Ref))}
      (hxy : ∀ v, t.Onward v → Mirrors x y v (P.state v) (P.WentIfFound s)) :
      Mirrors (do expect ')'; x) (do expect ')'; y) t u (P.WentIfFound s) := by
    refine (expect_close_beside htu ht.sound).bind ?_
    rintro _ v _ _ ⟨-, rfl, hv⟩
    exact hxy v hv
  cases word with
  | nil => exact hnone
  | cons c more =>
    dsimp only
    split
    · split
      · exact hclosed fun _ => hnever
      · exact hclosed fun _ => hnever
      · exact hclosed fun _ _ => .of_fault rfl
      · exact hclosed fun _ _ => .of_fault rfl
      · exact .of_fault rfl
    · exact hnone

end Verbs

end Place

end LineJoin.Pattern
