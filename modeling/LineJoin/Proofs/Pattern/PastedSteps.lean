import LineJoin.Proofs.Pattern.Pasting

/-!
# Steps of a pasted reading

Each step that takes characters does the same at the place where a text is pasted as it does alone.
Only a closing parenthesis tells the two apart, and reading alone fails where it needs one that is
not there.
-/

namespace LineJoin.Pattern

open Reader ReadState

/-- One character, with what was passed over before it, has been taken. -/
structure ReadState.Took (s : ReadState) (c : Char) (t : ReadState) : Prop where
  same : t = { s with rest := t.rest, position := t.position }
  shorter : t.rest.length < s.rest.length
  numbers : refersByNumber (c :: t.rest) = false

theorem ReadState.Took.onward {s t : ReadState} {c : Char} (h : s.Took c t) (hs : s.Sound)
    (hc : c ≠ '\\') : s.Onward t where
  shorter := Nat.le_of_lt h.shorter
  opens := by rw [h.same]
  sound := by
    refine ⟨refersByNumber_of_cons h.numbers hc, ?_⟩
    rw [h.same]
    exact hs.named

namespace Place

variable {P : Place} {s s' : ReadState}

theorem ahead_state (s : ReadState) : ahead (P.state s) =
    if s.skips then skipFrom false (s.position + P.offset) (s.rest ++ P.tail)
    else (s.position + P.offset, s.rest ++ P.tail) := rfl

/-- The next character alone is the next one at the place. -/
theorem ahead_state_of_cons {n : Nat} {c : Char} {rest : List Char}
    (h : ahead s = (n, c :: rest)) :
    ahead (P.state s) = (n + P.offset, c :: (rest ++ P.tail)) := by
  rw [ahead_state]
  rw [ahead] at h
  split at h
  · rename_i hs
    rw [if_pos hs, skipFrom_shift, skipFrom_append, h]
  · rename_i hs
    obtain ⟨rfl, hrest⟩ := Prod.mk.inj h
    rw [if_neg hs, hrest]
    rfl

/-- Alone at the end, the place is before the parenthesis, unless a comment goes on. -/
theorem ahead_state_of_nil (hP : P.Proper) {n : Nat} (h : ahead s = (n, [])) :
    s.Commented ∧ (ahead (P.state s)).2 = [] ∨
      ¬ s.Commented ∧ ahead (P.state s) = (n + P.offset, P.tail) := by
  rw [ahead_state]
  rw [ahead] at h
  simp only [Commented]
  split at h
  · rename_i hs
    rw [if_pos hs, skipFrom_shift, skipFrom_append, h]
    simp only [hs, true_and]
    cases hend : endsInComment false s.rest with
    | true =>
      have hline : '\n' ∉ P.tail := by
        rw [tail, List.mem_cons, not_or]
        exact ⟨by decide, hP.line⟩
      exact .inl ⟨rfl, skipFrom_comment hline n⟩
    | false => exact .inr ⟨Bool.false_ne_true, rfl⟩
  · rename_i hs
    obtain ⟨rfl, hrest⟩ := Prod.mk.inj h
    rw [if_neg hs, hrest]
    exact .inr ⟨fun h => hs h.1, rfl⟩

theorem length_ahead_le (s : ReadState) : (ahead s).2.length ≤ s.rest.length := by
  rw [ahead]
  split
  · exact length_skipFrom_le false s.position s.rest
  · exact Nat.le_refl _

theorem numbers_ahead (hs : s.Sound) : refersByNumber (ahead s).2 = false := by
  rw [ahead]
  split
  · exact refersByNumber_skipFrom (.inl hs.numbers)
  · exact hs.numbers

theorem took_ahead (hs : s.Sound) {n : Nat} {c : Char} {rest : List Char}
    (h : ahead s = (n, c :: rest)) : s.Took c { s with rest, position := n + 1 } where
  same := rfl
  shorter := by
    have hle := length_ahead_le s
    rw [h] at hle
    exact hle
  numbers := by
    have hnum := numbers_ahead hs
    rw [h] at hnum
    exact hnum

theorem state_ahead {n : Nat} {rest : List Char} :
    ({ P.state s with rest := rest ++ P.tail, position := n + P.offset + 1 } : ReadState) =
      P.state { s with rest, position := n + 1 } := by
  simp only [state, ReadState.mk.injEq, and_true, true_and]
  omega

/-- The next character is taken in both readings, or reading alone is at its end. -/
theorem next_cases (hP : P.Proper) (hs : s.Sound) :
    (∃ c t, next.run s = .ok (some c, t) ∧ next.run (P.state s) = .ok (some c, P.state t) ∧
      s.Took c t ∧ (ahead s).2 = c :: t.rest) ∨
    ∃ t u c, next.run s = .ok (none, t) ∧ next.run (P.state s) = .ok (c, u) ∧
      (c = none ∨ c = some ')') := by
  cases hahead : ahead s with
  | mk n text =>
    cases text with
    | cons c rest =>
      refine .inl ⟨c, _, ?_, ?_, took_ahead hs hahead, rfl⟩
      · rw [next, run_bind_ok (run_get s), hahead]
        rfl
      · rw [next, run_bind_ok (run_get _), ahead_state_of_cons hahead, ← state_ahead]
        rfl
    | nil =>
      have halone : next.run s = .ok (none, { s with rest := [], position := n }) := by
        rw [next, run_bind_ok (run_get s), hahead]
        rfl
      rcases ahead_state_of_nil hP hahead with ⟨-, hpasted⟩ | ⟨-, hpasted⟩
      · refine .inr ⟨_, { P.state s with rest := [], position := (ahead (P.state s)).1 }, none,
          halone, ?_, .inl rfl⟩
        rw [next, run_bind_ok (run_get _)]
        cases hp : ahead (P.state s) with
        | mk m text =>
          rw [hp] at hpasted
          obtain rfl : text = [] := hpasted
          rfl
      · refine .inr ⟨_, { P.state s with rest := P.rest, position := n + P.offset + 1 }, some ')',
          halone, ?_, .inr rfl⟩
        rw [next, run_bind_ok (run_get _), hpasted]
        rfl

theorem state_past (s : ReadState) (n : Nat) (rest : List Char) :
    (P.state s).past n (rest ++ P.tail) = P.state (s.past n rest) := by
  simp only [past, state, ReadState.mk.injEq, and_true, true_and]
  omega

theorem rest_state_of_cons {c : Char} {rest : List Char} (h : s.rest = c :: rest) :
    (P.state s).rest = c :: (rest ++ P.tail) := by
  rw [state, h]
  rfl

theorem run_nextExact_state {c : Char} {rest : List Char} (h : s.rest = c :: rest) :
    nextExact.run (P.state s) = .ok (some c, P.state (s.past 1 rest)) := by
  rw [run_nextExact (rest_state_of_cons h), state_past]

theorem nextExact_cases (hs : s.Sound) :
    (∃ c t, nextExact.run s = .ok (some c, t) ∧
      nextExact.run (P.state s) = .ok (some c, P.state t) ∧ s.Took c t ∧ s.rest = c :: t.rest) ∨
    s.rest = [] ∧ nextExact.run s = .ok (none, s) := by
  cases hrest : s.rest with
  | nil => exact .inr ⟨rfl, run_nextExact_end hrest⟩
  | cons c rest =>
    refine .inl ⟨c, s.past 1 rest, run_nextExact hrest, run_nextExact_state hrest, ⟨rfl, ?_, ?_⟩, rfl⟩
    · rw [hrest]
      exact Nat.lt_succ_self _
    · have hnum := hs.numbers
      rw [hrest] at hnum
      exact hnum

/-- A character other than the parenthesis is accepted in both readings or in neither. -/
theorem accept_cases (hP : P.Proper) (hb : P.Beside s s') (hs : s.Sound) {c : Char}
    (hc : c ≠ ')') :
    ((accept c).run s = .ok (false, s) ∧ (accept c).run s' = .ok (false, s') ∧
      ∀ rest, (ahead s).2 ≠ c :: rest) ∨
    ∃ t, (accept c).run s = .ok (true, t) ∧ (accept c).run s' = .ok (true, P.state t) ∧
      s.Took c t ∧ (ahead s).2 = c :: t.rest := by
  rcases hb with rfl | hend
  · cases hahead : ahead s with
    | mk n text =>
      cases text with
      | cons x rest =>
        have hpasted := ahead_state_of_cons (P := P) hahead
        by_cases hx : x = c
        · refine .inr ⟨{ s with rest, position := n + 1 }, ?_, ?_, hx ▸ took_ahead hs hahead,
            by rw [hx]⟩
          · rw [accept, run_bind_ok (run_get s), hahead]
            simp only [if_pos hx]
            rfl
          · rw [accept, run_bind_ok (run_get _), hpasted, ← state_ahead]
            simp only [if_pos hx]
            rfl
        · refine .inl ⟨?_, ?_, fun rest h => hx (List.cons.inj h).1⟩
          · rw [accept, run_bind_ok (run_get s), hahead]
            simp only [if_neg hx]
            rfl
          · rw [accept, run_bind_ok (run_get _), hpasted]
            simp only [if_neg hx]
            rfl
      | nil =>
        refine .inl ⟨?_, ?_, fun rest h => List.cons_ne_nil c rest h.symm⟩
        · rw [accept, run_bind_ok (run_get s), hahead]
          rfl
        · rw [accept, run_bind_ok (run_get _)]
          cases hp : ahead (P.state s) with
          | mk m text =>
            rcases ahead_state_of_nil hP hahead with ⟨-, hpasted⟩ | ⟨-, hpasted⟩
            · rw [hp] at hpasted
              obtain rfl : text = [] := hpasted
              rfl
            · rw [hp] at hpasted
              obtain ⟨-, rfl⟩ := Prod.mk.inj hpasted
              simp only [tail, if_neg (Ne.symm hc)]
              rfl
  · refine .inl ⟨run_accept_end hend.alone c, run_accept_end hend.pasted c, fun rest h => ?_⟩
    rw [ahead_of_end hend.alone] at h
    cases h

theorem accept_agree (hP : P.Proper) (hb : P.Beside s s') (hs : s.Sound) {c : Char}
    (hc : c ≠ ')') (hback : c ≠ '\\') :
    Agree (accept c) (accept c) s s' fun a t b u =>
      a = b ∧ (a = true → u = P.state t) ∧ P.Beside t u ∧ s.Onward t := by
  rcases accept_cases hP hb hs hc with ⟨h, h', -⟩ | ⟨t, h, h', ht, -⟩
  · exact ⟨false, s, false, s', h, h', rfl, fun h => absurd h Bool.false_ne_true, hb, hs.onward⟩
  · exact ⟨true, t, true, P.state t, h, h', rfl, fun _ => rfl, .inl rfl, ht.onward hs hback⟩

theorem accept_went (hP : P.Proper) (hs : s.Sound) {c : Char} (hc : c ≠ ')') (hback : c ≠ '\\') :
    Agree (accept c) (accept c) s (P.state s) (P.Went Eq s) := by
  rcases accept_cases hP (.inl rfl) hs hc with ⟨h, h', -⟩ | ⟨t, h, h', ht, -⟩
  · exact ⟨false, s, false, P.state s, h, h', rfl, rfl, hs.onward⟩
  · exact ⟨true, t, true, P.state t, h, h', rfl, rfl, ht.onward hs hback⟩

/-- Looking for a character other than the parenthesis. -/
theorem peek_went (hP : P.Proper) (hs : s.Sound) {c : Char} (hc : c ≠ ')') :
    Agree (peek (accept c)) (peek (accept c)) s (P.state s) (P.Went Eq s) := by
  rcases accept_cases hP (.inl rfl) hs hc with ⟨h, h', -⟩ | ⟨t, h, h', -, -⟩
  · exact ⟨false, s, false, P.state s, run_peek h, run_peek h', rfl, rfl, hs.onward⟩
  · exact ⟨true, s, true, P.state s, run_peek h, run_peek h', rfl, rfl, hs.onward⟩

/-- A parenthesis that is accepted alone is accepted at the place. -/
theorem accept_close_cases (hs : s.Sound) :
    (∃ t, (accept ')').run s = .ok (true, t) ∧ (accept ')').run (P.state s) = .ok (true, P.state t) ∧
      s.Onward t) ∨
    (accept ')').run s = .ok (false, s) := by
  cases hahead : ahead s with
  | mk n text =>
    cases text with
    | cons x rest =>
      by_cases hx : x = ')'
      · have htook := took_ahead hs hahead
        refine .inl ⟨{ s with rest, position := n + 1 }, ?_, ?_,
          (hx ▸ htook).onward hs (by decide)⟩
        · rw [accept, run_bind_ok (run_get s), hahead]
          simp only [if_pos hx]
          rfl
        · rw [accept, run_bind_ok (run_get _), ahead_state_of_cons hahead, ← state_ahead]
          simp only [if_pos hx]
          rfl
      · refine .inr ?_
        rw [accept, run_bind_ok (run_get s), hahead]
        simp only [if_neg hx]
        rfl
    | nil =>
      refine .inr ?_
      rw [accept, run_bind_ok (run_get s), hahead]
      rfl

/-- The closing parenthesis of a group. -/
theorem expect_close_mirrors (hs : s.Sound) :
    Mirrors (expect ')') (expect ')') s (P.state s) (P.Went Eq s) := by
  rcases accept_close_cases (P := P) hs with ⟨t, h, h', ht⟩ | h
  · refine .of_run (a := ⟨⟩) (b := ⟨⟩) (t := t) (u := P.state t) ?_ ?_ ⟨rfl, rfl, ht⟩
    · rw [expect, run_bind_ok h]
      rfl
    · rw [expect, run_bind_ok h']
      rfl
  · refine .of_fault (e := ⟨.missing (String.singleton ')'), s.position⟩) ?_
    rw [expect, run_bind_ok h]
    rfl

end Place

end LineJoin.Pattern
