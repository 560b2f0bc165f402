import LineJoin.Pattern.Reader

/-!
# Steps of reading

What each step of a reader does from a state in which the next character is known. A character is
`visible` if it is not passed over in verbose patterns, so that a step takes it whether blanks are
passed over or not.
-/

namespace LineJoin.Pattern

def visible (c : Char) : Bool := !isBlank c && c != '#'

namespace ReadState

/-- The state after some characters, up to a given rest, have been taken. -/
def past (s : ReadState) (n : Nat) (rest : List Char) : ReadState :=
  { s with rest, position := s.position + n }

theorem past_past (s : ReadState) (m n : Nat) (r r' : List Char) :
    (s.past m r).past n r' = s.past (m + n) r' := by
  simp only [past, Nat.add_assoc]

/-- A character is the next one to be taken. -/
structure Sees (s : ReadState) (c : Char) (rest : List Char) : Prop where
  rest : s.rest = c :: rest
  visible : s.skips = true → visible c = true

theorem sees_visible {s : ReadState} {c : Char} {rest : List Char} (h : s.rest = c :: rest)
    (hc : visible c = true) : s.Sees c rest := ⟨h, fun _ => hc⟩

theorem sees_exact {s : ReadState} {c : Char} {rest : List Char} (h : s.rest = c :: rest)
    (hs : s.skips = false) : s.Sees c rest :=
  ⟨h, fun hskips => by rw [hs] at hskips; cases hskips⟩

end ReadState

namespace Reader

open ReadState

variable {α β : Type} {s t : ReadState} {c : Char} {rest : List Char}

theorem run_bind_ok {x : Reader α} {f : α → Reader β} {a : α} (h : x.run s = .ok (a, t)) :
    (x >>= f).run s = (f a).run t := by
  rw [StateT.run_bind, h]
  rfl

theorem run_bind_error {x : Reader α} {f : α → Reader β} {e : Interrupt}
    (h : x.run s = .error e) : (x >>= f).run s = .error e := by
  rw [StateT.run_bind, h]
  rfl

theorem ok_of_run_bind {x : Reader α} {f : α → Reader β} {b : β} (h : (x >>= f).run s = .ok (b, t)) :
    ∃ a u, x.run s = .ok (a, u) ∧ (f a).run u = .ok (b, t) := by
  rw [StateT.run_bind] at h
  cases hx : x.run s with
  | error e =>
    rw [hx] at h
    cases h
  | ok r =>
    rw [hx] at h
    exact ⟨r.1, r.2, rfl, h⟩

theorem run_pure (a : α) (s : ReadState) : (pure a : Reader α).run s = .ok (a, s) := rfl

theorem run_get (s : ReadState) : (get : Reader ReadState).run s = .ok (s, s) := rfl

theorem run_set (s t : ReadState) : (set t : Reader PUnit).run s = .ok (⟨⟩, t) := rfl

theorem run_modify (f : ReadState → ReadState) (s : ReadState) :
    (modify f : Reader PUnit).run s = .ok (⟨⟩, f s) := rfl

theorem run_position (s : ReadState) : position.run s = .ok (s.position, s) := rfl

theorem run_flags (s : ReadState) : flags.run s = .ok (s.flags, s) := rfl

theorem run_setFlags (f : Flags) (s : ReadState) :
    (setFlags f).run s = .ok (⟨⟩, { s with flags := f, skips := f.verbose }) := rfl

theorem ahead_of_sees (h : s.Sees c rest) : ahead s = (s.position, c :: rest) := by
  rw [ahead, h.rest]
  split
  · rename_i hs
    have hc := h.visible hs
    simp only [visible, Bool.and_eq_true, Bool.not_eq_true', bne_iff_ne] at hc
    rw [skipFrom, hc.1, if_neg Bool.false_ne_true, if_neg hc.2]
  · rfl

theorem run_next (h : s.Sees c rest) : next.run s = .ok (some c, s.past 1 rest) := by
  rw [next, run_bind_ok (run_get s), ahead_of_sees h]
  rfl

theorem run_nextExact (h : s.rest = c :: rest) :
    nextExact.run s = .ok (some c, s.past 1 rest) := by
  rw [nextExact, run_bind_ok (run_get s), h]
  rfl

theorem run_nextExact_end (h : s.rest = []) : nextExact.run s = .ok (none, s) := by
  rw [nextExact, run_bind_ok (run_get s), h]
  rfl

theorem run_accept (h : s.Sees c rest) : (accept c).run s = .ok (true, s.past 1 rest) := by
  rw [accept, run_bind_ok (run_get s), ahead_of_sees h]
  simp only [if_true]
  rfl

theorem run_accept_other (h : s.Sees c rest) {x : Char} (hx : c ≠ x) :
    (accept x).run s = .ok (false, s) := by
  rw [accept, run_bind_ok (run_get s), ahead_of_sees h]
  simp only [if_neg hx]
  rfl

theorem run_expect (h : s.Sees c rest) : (expect c).run s = .ok (⟨⟩, s.past 1 rest) := by
  rw [expect, run_bind_ok (run_accept h)]
  rfl

theorem ahead_of_end (h : s.rest = []) : ahead s = (s.position, []) := by
  rw [ahead, h]
  split <;> rfl

theorem run_next_end (h : s.rest = []) : next.run s = .ok (none, s) := by
  rw [next, run_bind_ok (run_get s), ahead_of_end h]
  refine (run_bind_ok (run_set _ _)).trans ?_
  rw [← h]
  rfl

theorem run_accept_end (h : s.rest = []) (x : Char) : (accept x).run s = .ok (false, s) := by
  rw [accept, run_bind_ok (run_get s), ahead_of_end h]
  rfl

theorem run_atEnd_finish (h : s.rest = []) : atEnd.run s = .ok (true, s) := by
  rw [atEnd, run_bind_ok (run_get s), ahead_of_end h]
  rfl

theorem run_attempt_some {step : Reader (Option α)} {a : α} (h : step.run s = .ok (some a, t)) :
    (attempt step).run s = .ok (some a, t) := by
  rw [attempt, run_bind_ok (run_get s), run_bind_ok h]
  rfl

theorem run_attempt_none {step : Reader (Option α)} (h : step.run s = .ok (none, t)) :
    (attempt step).run s = .ok (none, s) := by
  rw [attempt, run_bind_ok (run_get s), run_bind_ok h]
  rfl

theorem run_of_attempt_some {step : Reader (Option α)} {a : α}
    (h : (attempt step).run s = .ok (some a, t)) : step.run s = .ok (some a, t) := by
  rw [attempt, run_bind_ok (run_get s)] at h
  obtain ⟨found, u, hstep, h⟩ := ok_of_run_bind h
  cases found with
  | some b =>
    cases h
    exact hstep
  | none => cases h

theorem eq_of_attempt_none {step : Reader (Option α)}
    (h : (attempt step).run s = .ok (none, t)) : t = s := by
  rw [attempt, run_bind_ok (run_get s)] at h
  obtain ⟨found, u, hstep, h⟩ := ok_of_run_bind h
  cases found with
  | some b => cases h
  | none =>
    cases h
    rfl

theorem run_takeDigit {p : Char → Bool} (h : s.Sees c rest) (hp : p c = true) :
    (takeDigit p).run s = .ok (some c, s.past 1 rest) := by
  refine run_attempt_some ?_
  rw [run_bind_ok (run_next h)]
  simp only [hp, if_true]
  rfl

theorem run_peek {step : Reader α} {a : α} (h : step.run s = .ok (a, t)) :
    (peek step).run s = .ok (a, s) := by
  rw [peek, run_bind_ok (run_get s), run_bind_ok h]
  rfl

theorem takeSkipping_eq {p : Char → Bool} {text : List Char} (htext : ∀ x ∈ text, p x = true)
    (hvisible : ∀ x ∈ text, visible x = true) (hp : p c = false) (hc : visible c = true)
    (n : Nat) : takeSkipping p false n (text ++ c :: rest) = (text, n + text.length, c :: rest) := by
  have hplain {x : Char} (hx : visible x = true) : isBlank x = false ∧ x ≠ '#' := by
    simpa only [visible, Bool.and_eq_true, Bool.not_eq_true', bne_iff_ne] using hx
  induction text generalizing n with
  | nil =>
    obtain ⟨hb, hh⟩ := hplain hc
    simp [takeSkipping, hb, hh, hp]
  | cons x text ih =>
    obtain ⟨hx, htext⟩ := List.forall_mem_cons.mp htext
    obtain ⟨hv, hvisible⟩ := List.forall_mem_cons.mp hvisible
    obtain ⟨hb, hh⟩ := hplain hv
    simp only [List.cons_append, takeSkipping, hb, hh, hx, if_true, if_false, Bool.false_eq_true,
      ih htext hvisible, List.length_cons]
    rw [Nat.add_assoc, Nat.add_comm 1]

/-- Taking characters of a kind up to the first one that is not. -/
theorem run_takeWhile {p : Char → Bool} {text : List Char} (h : s.rest = text ++ c :: rest)
    (htext : ∀ x ∈ text, p x = true) (hp : p c = false)
    (hvisible : s.skips = true → ∀ x ∈ c :: text, visible x = true) :
    (takeWhile p).run s = .ok (text, s.past text.length (c :: rest)) := by
  rw [Reader.takeWhile, run_bind_ok (run_get s)]
  by_cases hs : s.skips = true
  · obtain ⟨hc, hvisible⟩ := List.forall_mem_cons.mp (hvisible hs)
    rw [if_pos hs, h, takeSkipping_eq htext hvisible hp hc]
    rfl
  · have htake : (text ++ c :: rest).takeWhile p = text := by
      rw [List.takeWhile_append_of_pos htext, List.takeWhile_cons, hp]
      simp
    have hdrop : (text ++ c :: rest).dropWhile p = c :: rest := by
      rw [List.dropWhile_append_of_pos htext, List.dropWhile_cons, hp]
      simp
    rw [if_neg hs, takeExactly, run_bind_ok (run_get s), h, htake, hdrop]
    rfl

end Reader

end LineJoin.Pattern
