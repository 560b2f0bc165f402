import LineJoin.Proofs.Pattern.Classes
import LineJoin.Proofs.Pattern.PastedSteps

/-!
# Runs of characters in a pasted reading

A run of characters of a kind ends at the closing parenthesis, which is of none of the kinds that
are taken. Names and attempts read such runs. Where a run ends in a comment there is nothing left in
either reading.
-/

namespace LineJoin.Pattern

open Reader ReadState

section Skipping

variable {p : Char → Bool} {rest text : List Char}

theorem takeSkipping_comment (h : '\n' ∉ text) (n : Nat) :
    ∃ m, takeSkipping p true n text = ([], m, []) := by
  induction text generalizing n with
  | nil => exact ⟨n, rfl⟩
  | cons c text ih =>
    rw [List.mem_cons, not_or] at h
    rw [takeSkipping, if_neg (Ne.symm h.1)]
    exact ih h.2 (n + 1)

/-- The same run is taken in front of a closing parenthesis; if it ends in a comment, the comment
goes on to the end. -/
theorem takeSkipping_append (hp : p ')' = false) (hline : '\n' ∉ rest) (b : Bool) (n k : Nat)
    (text : List Char) :
    ∃ name m m' left left', takeSkipping p b n text = (name, m, left) ∧
      takeSkipping p b (n + k) (text ++ ')' :: rest) = (name, m', left') ∧
      (left' = left ++ ')' :: rest ∧ m' = m + k ∨ left = [] ∧ left' = []) := by
  induction text generalizing b n with
  | nil =>
    cases b with
    | true =>
      have hline : '\n' ∉ ')' :: rest := by
        rw [List.mem_cons, not_or]
        exact ⟨by decide, hline⟩
      obtain ⟨m, hm⟩ := takeSkipping_comment (p := p) hline (n + k)
      exact ⟨[], n, m, [], [], rfl, hm, .inr ⟨rfl, rfl⟩⟩
    | false =>
      refine ⟨[], n, n + k, [], ')' :: rest, rfl, ?_, .inl ⟨rfl, rfl⟩⟩
      rw [List.nil_append, takeSkipping, if_neg (by decide), if_neg (by decide), hp,
        if_neg Bool.false_ne_true]
  | cons c text ih =>
    have hk : n + k + 1 = n + 1 + k := by omega
    cases b with
    | true =>
      simp only [List.cons_append, takeSkipping, hk]
      split
      · exact ih false (n + 1)
      · exact ih true (n + 1)
    | false =>
      simp only [List.cons_append, takeSkipping, hk]
      split
      · exact ih false (n + 1)
      · split
        · exact ih true (n + 1)
        · split
          · obtain ⟨name, m, m', left, left', h, h', hleft⟩ := ih false (n + 1)
            exact ⟨c :: name, m, m', left, left', by rw [h], by rw [h'], hleft⟩
          · exact ⟨[], n, n + k, c :: text, _, rfl, rfl, .inl ⟨rfl, rfl⟩⟩

/-- What is left after a run refers to no groups by number. A run that takes backslashes must take
opening parentheses too: it can end between a backslash and the character after it. -/
theorem takeSkipping_left (hp : p '\\' = true → p '(' = true) {b : Bool} {n : Nat}
    (h : refersByNumber text = false ∨
      (b = true ∨ p '\\' = true) ∧ refersByNumber ('\\' :: text) = false) :
    (takeSkipping p b n text).2.2.length ≤ text.length ∧
      refersByNumber (takeSkipping p b n text).2.2 = false := by
  induction text generalizing b n with
  | nil => exact ⟨Nat.le_refl _, rfl⟩
  | cons c text ih =>
    have hrest : refersByNumber text = false ∨ c = '\\' ∧ refersByNumber (c :: text) = false := by
      rcases h with h | ⟨-, h⟩
      · by_cases hc : c = '\\'
        · exact .inr ⟨hc, h⟩
        · exact .inl (refersByNumber_of_cons h hc)
      · exact .inl (refersByNumber_of_escape h).2.2
    have hstep {b : Bool} {n : Nat} (hb : c = '\\' → b = true ∨ p '\\' = true) :
        (takeSkipping p b n text).2.2.length ≤ (c :: text).length ∧
          refersByNumber (takeSkipping p b n text).2.2 = false := by
      refine (ih (hrest.imp_right ?_)).imp_left Nat.le_succ_of_le
      rintro ⟨rfl, h⟩
      exact ⟨hb rfl, h⟩
    cases b with
    | true =>
      rw [takeSkipping]
      split
      · rename_i hc
        exact hstep fun hback => absurd (hback.symm.trans hc) (by decide)
      · exact hstep fun _ => .inl rfl
    | false =>
      rw [takeSkipping]
      split
      · rename_i hblank
        refine hstep fun hback => absurd hblank ?_
        rw [hback]
        decide
      · split
        · exact hstep fun _ => .inl rfl
        · split
          · rename_i hc
            exact hstep fun hback => .inr (hback ▸ hc)
          · rename_i hc
            refine ⟨Nat.le_refl _, ?_⟩
            rcases h with h | ⟨hb, h⟩
            · exact h
            · have hback := hb.resolve_left Bool.false_ne_true
              have hne : c ≠ '\\' := fun heq => hc (heq ▸ hback)
              have hopen : c ≠ '(' := fun heq => hc (heq ▸ hp hback)
              rw [refersByNumber]
              · exact (refersByNumber_of_escape h).2.2
              · exact fun _ _ heq => absurd heq hne
              · exact hopen

/-- A run begins with the first character that is not passed over. -/
theorem takeSkipping_first {b : Bool} {n m : Nat} {c : Char} {more : List Char}
    (h : (takeSkipping p b n text).1 = c :: more) : ∃ rest, (skipFrom b m text).2 = c :: rest := by
  induction text generalizing b n m with
  | nil => cases h
  | cons x text ih =>
    cases b with
    | true =>
      rw [takeSkipping] at h
      rw [skipFrom]
      split at h
      · rename_i hx
        rw [if_pos hx]
        exact ih h
      · rename_i hx
        rw [if_neg hx]
        exact ih h
    | false =>
      rw [takeSkipping] at h
      rw [skipFrom]
      split at h
      · rename_i hblank
        rw [if_pos hblank]
        exact ih h
      · rename_i hblank
        rw [if_neg hblank]
        split at h
        · rename_i hx
          rw [if_pos hx]
          exact ih h
        · rename_i hx
          rw [if_neg hx]
          split at h
          · exact ⟨text, by rw [(List.cons.inj h).1]⟩
          · cases h

theorem dropWhile_left (hp : p '\\' = true → p '(' = true)
    (h : refersByNumber text = false ∨
      p '\\' = true ∧ refersByNumber ('\\' :: text) = false) :
    (text.dropWhile p).length ≤ text.length ∧ refersByNumber (text.dropWhile p) = false := by
  induction text with
  | nil => exact ⟨Nat.le_refl _, rfl⟩
  | cons c text ih =>
    rw [List.dropWhile_cons]
    split
    · rename_i hc
      refine (ih ?_).imp_left Nat.le_succ_of_le
      rcases h with h | ⟨-, h⟩
      · by_cases hback : c = '\\'
        · exact .inr ⟨hback ▸ hc, hback ▸ h⟩
        · exact .inl (refersByNumber_of_cons h hback)
      · exact .inl (refersByNumber_of_escape h).2.2
    · rename_i hc
      refine ⟨Nat.le_refl _, ?_⟩
      rcases h with h | ⟨hback, h⟩
      · exact h
      · rw [refersByNumber]
        · exact (refersByNumber_of_escape h).2.2
        · exact fun _ _ heq => absurd hback (heq ▸ hc)
        · exact fun heq => hc (heq ▸ hp hback)

theorem takeWhile_append_close (hp : p ')' = false) (text rest : List Char) :
    (text ++ ')' :: rest).takeWhile p = text.takeWhile p ∧
      (text ++ ')' :: rest).dropWhile p = text.dropWhile p ++ ')' :: rest := by
  induction text with
  | nil => simp [hp]
  | cons c text ih =>
    rw [List.cons_append, List.takeWhile_cons, List.takeWhile_cons, List.dropWhile_cons,
      List.dropWhile_cons, ih.1, ih.2]
    split
    · exact ⟨rfl, rfl⟩
    · exact ⟨rfl, rfl⟩

theorem digitFirst_cons {c : Char} (h : isDigit c = true) : digitFirst (c :: text) = true := by
  have hrange : ('0' ≤ c && c ≤ '9') = true := h
  have hhex : (Span.hexValue? c).isSome = true := by
    rw [Span.hexValue?, if_pos hrange]
    rfl
  have hvisible := hexValue?_visible hhex
  simp only [visible, Bool.and_eq_true, Bool.not_eq_true', bne_iff_ne] at hvisible
  simp only [digitFirst, skipFrom, hvisible.1, if_neg hvisible.2, Bool.false_eq_true, if_false]
  exact h

/-- A run of a text that begins with no digit is not all digits, with characters passed over. -/
theorem takeSkipping_not_digits {n : Nat} (h : digitFirst text = false)
    (hne : (takeSkipping p false n text).1 ≠ []) :
    (takeSkipping p false n text).1.all isDigit = false := by
  obtain ⟨c, more, hname⟩ := List.exists_cons_of_ne_nil hne
  obtain ⟨rest, hc⟩ := takeSkipping_first (m := 0) hname
  rw [digitFirst, hc] at h
  have hdigit : isDigit c = false := h
  rw [hname, List.all_cons, hdigit]
  rfl

/-- The same for a run without characters passed over. -/
theorem takeWhile_not_digits (h : digitFirst text = false) (hne : text.takeWhile p ≠ []) :
    (text.takeWhile p).all isDigit = false := by
  cases text with
  | nil => exact absurd rfl hne
  | cons c rest =>
    have hdigit : isDigit c = false := by
      rw [← Bool.not_eq_true]
      intro hc
      rw [digitFirst_cons hc] at h
      cases h
    rw [List.takeWhile_cons] at hne ⊢
    split at hne
    · rename_i hc
      rw [if_pos hc, List.all_cons, hdigit]
      rfl
    · exact absurd rfl hne

end Skipping

/-- The next character, if it stands for something. -/
def takeAs {α : Type} (f : Char → Option α) : Reader (Option α) :=
  attempt do
    match ← next with
    | some c => return f c
    | none => return none

namespace Place

variable {P : Place} {s s' : ReadState} {p : Char → Bool}

theorem takeExactly_cases (hs : s.Sound) (hclose : p ')' = false)
    (hback : p '\\' = true → p '(' = true) :
    ∃ name t, (takeExactly p).run s = .ok (name, t) ∧
      (takeExactly p).run (P.state s) = .ok (name, P.state t) ∧ s.Onward t ∧
      name = s.rest.takeWhile p := by
  obtain ⟨htake, hdrop⟩ := takeWhile_append_close hclose s.rest P.rest
  obtain ⟨hle, hnumbers⟩ := dropWhile_left hback (.inl hs.numbers)
  refine ⟨s.rest.takeWhile p, _, rfl, ?_, ⟨hle, rfl, hnumbers, hs.named⟩, rfl⟩
  rw [takeExactly, run_bind_ok (run_get _)]
  have hrest : (P.state s).rest = s.rest ++ ')' :: P.rest := rfl
  rw [hrest, htake, hdrop]
  refine congrArg (fun t => Except.ok (s.rest.takeWhile p, t)) ?_
  simp only [state, ReadState.mk.injEq, and_true]
  exact ⟨rfl, by omega⟩

theorem takeWhile_cases (hP : P.Proper) (hs : s.Sound) (hclose : p ')' = false)
    (hback : p '\\' = true → p '(' = true) :
    ∃ name t u, (Reader.takeWhile p).run s = .ok (name, t) ∧
      (Reader.takeWhile p).run (P.state s) = .ok (name, u) ∧ P.Beside t u ∧ s.Onward t ∧
      (digitFirst s.rest = false → name ≠ [] → name.all isDigit = false) := by
  by_cases hskips : s.skips = true
  · have hpasted : (P.state s).skips = true := hskips
    obtain ⟨name, m, m', left, left', h, h', hleft⟩ :=
      takeSkipping_append hclose hP.line false s.position P.offset s.rest
    obtain ⟨hle, hnumbers⟩ := takeSkipping_left (n := s.position) hback (.inl hs.numbers)
    rw [h] at hle hnumbers
    refine ⟨name, { s with rest := left, position := m },
      { P.state s with rest := left', position := m' }, ?_, ?_, ?_, ⟨hle, rfl, hnumbers, hs.named⟩,
      ?_⟩
    · rw [Reader.takeWhile, run_bind_ok (run_get s), if_pos hskips, h]
      rfl
    · have h' : takeSkipping p false (P.state s).position (P.state s).rest = (name, m', left') := h'
      rw [Reader.takeWhile, run_bind_ok (run_get _), if_pos hpasted, h']
      rfl
    · rcases hleft with ⟨rfl, rfl⟩ | ⟨hleft, hleft'⟩
      · exact .inl rfl
      · exact .inr ⟨hleft, hleft'⟩
    · intro hfirst hne
      have hname := takeSkipping_not_digits (p := p) (n := s.position) hfirst
      rw [h] at hname
      exact hname hne
  · have hpasted : ¬(P.state s).skips = true := hskips
    obtain ⟨name, t, h, h', ht, hname⟩ := takeExactly_cases (P := P) hs hclose hback
    refine ⟨name, t, P.state t, ?_, ?_, .inl rfl, ht, ?_⟩
    · rw [Reader.takeWhile, run_bind_ok (run_get s), if_neg hskips, h]
    · rw [Reader.takeWhile, run_bind_ok (run_get _), if_neg hpasted, h']
    · intro hfirst hne
      rw [hname] at hne ⊢
      exact takeWhile_not_digits hfirst hne

theorem takeAs_agree (hP : P.Proper) (hs : s.Sound) {α : Type} {f : Char → Option α}
    (hclose : f ')' = none) (hback : f '\\' = none) :
    Agree (takeAs f) (takeAs f) s (P.state s) fun a t b u =>
      a = b ∧ u = P.state t ∧ s.Onward t ∧ (a = none → t = s) ∧
        (a ≠ none → t.rest.length < s.rest.length) := by
  refine Agree.attempt (R := fun a t u => u = P.state t ∧ s.Onward t ∧ (a = none → t = s) ∧
    (a ≠ none → t.rest.length < s.rest.length))
    ⟨rfl, hs.onward, fun _ => rfl, fun h => absurd rfl h⟩ ?_
  rcases next_cases hP hs with ⟨c, t, h, h', ht, -⟩ | ⟨t, u, c, h, h', hc⟩
  · refine ⟨f c, t, f c, P.state t, run_bind_ok h, run_bind_ok h', rfl, fun hsome => ?_⟩
    refine ⟨rfl, ht.onward hs ?_, fun hnone => absurd hnone hsome, fun _ => ht.shorter⟩
    rintro rfl
    exact hsome hback
  · refine ⟨none, t, none, u, run_bind_ok h, ?_, rfl, fun hsome => absurd rfl hsome⟩
    rcases hc with rfl | rfl
    · exact run_bind_ok h'
    · exact (run_bind_ok h').trans (congrArg (fun a => Except.ok (a, u)) hclose)

theorem findProperty_follow [CharacterNames] (inClass : Bool) (property : Option (List Char))
    (name : List Char) :
    Follow (findProperty inClass property name) (findProperty inClass property name) s s'
      fun a t b u => a = b ∧ t = s ∧ u = s' := by
  cases property with
  | some property =>
    rw [findProperty]
    cases CharacterNames.qualified? property name with
    | found p => exact .inl (.pure ⟨rfl, rfl, rfl⟩)
    | unknownProperty => exact .inr ⟨_, _, rfl, rfl⟩
    | unknownValue => exact .inr ⟨_, _, rfl, rfl⟩
  | none =>
    simp only [findProperty]
    cases if inClass then CharacterNames.inClass? name else CharacterNames.property? name with
    | some p => exact .inl (.pure ⟨rfl, rfl, rfl⟩)
    | none => exact .inr ⟨_, _, rfl, rfl⟩

/-- The value of a property after its name, in front of a closing parenthesis or at the end of a
comment. -/
theorem readPropertyName_agree (hP : P.Proper) (hs : s.Sound) :
    Agree readPropertyName readPropertyName s (P.state s) fun a t b u =>
      a = b ∧ P.Beside t u ∧ s.Onward t := by
  obtain ⟨name, t, u, h, h', hb, ht, -⟩ := takeWhile_cases (p := isPropertyPart) hP hs (by decide)
    (fun h => absurd h (by decide))
  refine Agree.step h h' ?_
  refine Agree.bind (Agree.attempt (R := fun _ v w => P.Beside v w ∧ t.Onward v)
    ⟨hb, ht.sound.onward⟩ ?_) ?_
  · rcases hb with rfl | hend
    · rcases next_cases hP ht.sound with ⟨c, v, hn, hn', hv, -⟩ | ⟨v, w, c, hn, hn', hc⟩
      · refine Agree.step hn hn' ?_
        by_cases hc : (c = ':' || c = '=') = true
        · have hback : c ≠ '\\' := by
            rintro rfl
            revert hc
            decide
          have hv := hv.onward ht.sound hback
          obtain ⟨value, x, y, hx, hy, hb, hvx, -⟩ := takeWhile_cases (P := P) (p := isValuePart) hP
            hv.sound (by decide) (fun h => absurd h (by decide))
          simp only [if_pos hc]
          refine Agree.step hx hy ?_
          split
          · exact .pure ⟨rfl, fun h => absurd rfl h⟩
          · exact .pure ⟨rfl, fun _ => ⟨hb, hv.trans hvx⟩⟩
        · simp only [if_neg hc]
          exact .pure ⟨rfl, fun h => absurd rfl h⟩
      · refine Agree.step hn hn' ?_
        rcases hc with rfl | rfl
        · exact .pure ⟨rfl, fun h => absurd rfl h⟩
        · exact .pure ⟨rfl, fun h => absurd rfl h⟩
    · refine Agree.step (run_next_end hend.alone) (run_next_end hend.pasted) ?_
      exact .pure ⟨rfl, fun h => absurd rfl h⟩
  · rintro a v b w ⟨rfl, hvw, hv⟩
    cases a with
    | some value => exact .pure ⟨rfl, hvw, ht.trans hv⟩
    | none => exact .pure ⟨rfl, hvw, ht.trans hv⟩

/-- What an attempt gives, if anything, is given at the place too. -/
theorem attempt_tried {α : Type} {x y : Reader (Option α)} (hs : s.Sound)
    (h : Agree x y s (P.state s) fun a t b u => a = b ∧ (a ≠ none → u = P.state t ∧ s.Onward t)) :
    Agree (attempt x) (attempt y) s (P.state s) fun a t b u =>
      a = b ∧ u = P.state t ∧ s.Onward t ∧ (a = none → t = s) := by
  refine Agree.attempt (R := fun a t u => u = P.state t ∧ s.Onward t ∧ (a = none → t = s))
    ⟨rfl, hs.onward, fun _ => rfl⟩ (h.mono ?_)
  rintro a t b u ⟨hab, ha⟩
  exact ⟨hab, fun hsome => ⟨(ha hsome).1, (ha hsome).2, fun hnone => absurd hnone hsome⟩⟩

theorem attempt_went {α : Type} {x y : Reader (Option α)} (hs : s.Sound)
    (h : Agree x y s (P.state s) fun a t b u => a = b ∧ (a ≠ none → u = P.state t ∧ s.Onward t)) :
    Agree (attempt x) (attempt y) s (P.state s) (P.Went Eq s) :=
  (attempt_tried hs h).mono fun _ _ _ _ h => ⟨h.1, h.2.1, h.2.2.1⟩

theorem readBraced_agree (hP : P.Proper) (hs : s.Sound) (positive : Bool) :
    Agree (readBraced positive) (readBraced positive) s (P.state s) (P.Went Eq s) := by
  refine attempt_went hs ?_
  refine Agree.bind (accept_went hP hs (by decide) (by decide)) ?_
  rintro opened t _ _ ⟨rfl, rfl, ht⟩
  cases opened with
  | false => exact .pure ⟨rfl, fun h => absurd rfl h⟩
  | true =>
    refine Agree.bind (accept_went hP ht.sound (by decide) (by decide)) ?_
    rintro negated u _ _ ⟨rfl, rfl, hu⟩
    refine Agree.bind (readPropertyName_agree hP hu.sound) ?_
    rintro ⟨property, name⟩ v _ w ⟨rfl, hvw, hv⟩
    refine Agree.bind (accept_agree hP hvw hv.sound (by decide) (by decide)) ?_
    rintro closed x _ y ⟨rfl, hy, -, hx⟩
    cases closed with
    | false => exact .pure ⟨rfl, fun h => absurd rfl h⟩
    | true =>
      refine .pure ⟨rfl, fun _ => ?_⟩
      exact ⟨hy rfl, ((ht.trans hu).trans hv).trans hx⟩

theorem readNamedClass_agree (hP : P.Proper) (hs : s.Sound) :
    Agree readNamedClass readNamedClass s (P.state s) fun a t b u =>
      a = b ∧ u = P.state t ∧ s.Onward t ∧ (a = none → t = s) := by
  refine attempt_tried hs ?_
  refine Agree.bind (accept_went hP hs (by decide) (by decide)) ?_
  rintro opened t _ _ ⟨rfl, rfl, ht⟩
  refine Agree.bind (accept_went hP ht.sound (by decide) (by decide)) ?_
  rintro colon u _ _ ⟨rfl, rfl, hu⟩
  by_cases hopen : (opened && colon) = true
  · simp only [if_pos hopen]
    refine Agree.bind (accept_went hP hu.sound (by decide) (by decide)) ?_
    rintro negated v _ _ ⟨rfl, rfl, hv⟩
    refine Agree.bind (readPropertyName_agree hP hv.sound) ?_
    rintro ⟨property, name⟩ w _ w' ⟨rfl, hww', hw⟩
    refine Agree.bind (accept_agree hP hww' hw.sound (by decide) (by decide)) ?_
    rintro second x _ x' ⟨rfl, -, hxx', hx⟩
    refine Agree.bind (accept_agree hP hxx' hx.sound (by decide) (by decide)) ?_
    rintro closed y _ y' ⟨rfl, hyy', -, hy⟩
    by_cases hclose : (second && closed) = true
    · simp only [if_pos hclose]
      refine .pure ⟨rfl, fun _ => ?_⟩
      exact ⟨hyy' (Bool.and_eq_true_iff.mp hclose).2,
        ((((ht.trans hu).trans hv).trans hw).trans hx).trans hy⟩
    · simp only [if_neg hclose]
      exact .pure ⟨rfl, fun h => absurd rfl h⟩
  · simp only [if_neg hopen]
    exact .pure ⟨rfl, fun h => absurd rfl h⟩

/-- The closing brace after counts. -/
def closeCounts (q : Quantifier) : Reader (Option Quantifier) := do
  if ← accept '\x7d' then return some q else return none

theorem closeCounts_agree (hP : P.Proper) {t u : ReadState} (hb : P.Beside t u) (hst : s.Onward t)
    (q : Quantifier) : Agree (closeCounts q) (closeCounts q) t u fun a t b u =>
      a = b ∧ (a ≠ none → u = P.state t ∧ s.Onward t) := by
  refine Agree.bind (accept_agree hP hb hst.sound (by decide) (by decide)) ?_
  rintro closed v _ w ⟨rfl, hvw, -, hv⟩
  cases closed with
  | false => exact .pure ⟨rfl, fun h => absurd rfl h⟩
  | true =>
    refine .pure ⟨rfl, fun _ => ?_⟩
    exact ⟨hvw rfl, hst.trans hv⟩

theorem readCounts_follow (hP : P.Proper) (hs : s.Sound) :
    Follow readCounts readCounts s (P.state s) (P.Went Eq s) := by
  refine Follow.bind (Q := fun _ t _ u => t = s ∧ u = P.state s)
    (.inl ⟨_, s, _, P.state s, run_position s, run_position _, rfl, rfl⟩) ?_
  rintro start t start' _ ⟨rfl, rfl⟩
  refine Follow.bind (Q := P.Went Eq t) (.inl (attempt_went hs ?_)) ?_
  · obtain ⟨least, u, u', h, h', hb, hu, -⟩ := takeWhile_cases (P := P) (p := isDigit) hP hs
      (by decide) (fun h => absurd h (by decide))
    refine Agree.step h h' ?_
    refine Agree.bind (accept_agree hP hb hu.sound (by decide) (by decide)) ?_
    rintro comma v _ v' ⟨rfl, hcomma, hvv', hv⟩
    cases comma with
    | true =>
      obtain rfl := hcomma rfl
      obtain ⟨most, w, w', h, h', hb, hw, -⟩ := takeWhile_cases (P := P) (p := isDigit) hP hv.sound
        (by decide) (fun h => absurd h (by decide))
      refine Agree.step h h' ?_
      exact closeCounts_agree hP hb ((hu.trans hv).trans hw)
        ⟨digitsValue least, if most.isEmpty then none else some (digitsValue most)⟩
    | false =>
      simp only [Bool.false_eq_true, if_false]
      split
      · exact .pure ⟨rfl, fun h => absurd rfl h⟩
      · exact closeCounts_agree hP hvv' (hu.trans hv)
          ⟨digitsValue least, some (digitsValue least)⟩
  · rintro found u _ _ ⟨rfl, rfl, hu⟩
    cases found with
    | none => exact .inl (.pure ⟨rfl, rfl, hu⟩)
    | some q =>
      dsimp only
      split
      · exact .inr ⟨_, _, rfl, rfl⟩
      · split
        · exact .inr ⟨_, _, rfl, rfl⟩
        · exact .inl (.pure ⟨rfl, rfl, hu⟩)

/-- A name in front of a closing bracket or parenthesis. No number is ahead where one could be. -/
theorem readName_follow (hP : P.Proper) (hs : s.Sound) (allow : Bool)
    (hnumber : allow = true → digitFirst s.rest = false) :
    Follow (readName allow) (readName allow) s (P.state s) fun a t b u =>
      a = b ∧ P.Beside t u ∧ s.Onward t ∧ a.all isDigit = false := by
  obtain ⟨name, t, u, h, h', hb, ht, hfirst⟩ := takeWhile_cases (P := P)
    (p := fun c => c != ')' && c != '>') hP hs (by decide) (fun _ => by decide)
  refine Follow.step h h' ?_
  by_cases hempty : name.isEmpty = true
  · simp only [if_pos hempty]
    exact .inr ⟨_, _, rfl, rfl⟩
  · simp only [if_neg hempty]
    by_cases hdigits : name.all isDigit = true
    · simp only [if_pos hdigits]
      split
      · exact .inr ⟨_, _, rfl, rfl⟩
      · rename_i hallow
        rw [Bool.or_eq_true, Bool.not_eq_true', not_or, Bool.not_eq_false] at hallow
        have hne : name ≠ [] := fun heq => hempty (by rw [heq]; rfl)
        rw [hfirst (hnumber hallow.1) hne] at hdigits
        cases hdigits
    · simp only [if_neg hdigits]
      split
      · exact .inl (.pure ⟨rfl, hb, ht, Bool.eq_false_iff.mpr hdigits⟩)
      · exact .inr ⟨_, _, rfl, rfl⟩

/-- A character by its name in braces. -/
theorem readNamedCharacter_follow [CharacterNames] (hP : P.Proper) (hs : s.Sound) :
    Follow readNamedCharacter readNamedCharacter s (P.state s) (P.Went P.CopiesAtom s) := by
  refine Follow.bind (Q := P.Went Eq s) (.inl (attempt_went hs ?_)) ?_
  · refine Agree.bind (accept_went hP hs (by decide) (by decide)) ?_
    rintro opened t _ _ ⟨rfl, rfl, ht⟩
    cases opened with
    | false => exact .pure ⟨rfl, fun h => absurd rfl h⟩
    | true =>
      obtain ⟨name, u, h, h', hu, -⟩ := takeExactly_cases (P := P) (p := isNamePart) ht.sound
        (by decide) (fun h => absurd h (by decide))
      refine Agree.step h h' ?_
      refine Agree.bind (accept_went hP hu.sound (by decide) (by decide)) ?_
      rintro closed v _ _ ⟨rfl, rfl, hv⟩
      cases closed with
      | false => exact .pure ⟨rfl, fun h => absurd rfl h⟩
      | true =>
        refine .pure ⟨rfl, fun _ => ?_⟩
        exact ⟨rfl, (ht.trans hu).trans hv⟩
  · rintro found t _ _ ⟨rfl, rfl, ht⟩
    cases found with
    | none => exact .inl (.pure ⟨copiesAtom_code _, rfl, ht⟩)
    | some name =>
      dsimp only
      split
      · exact .inl (.pure ⟨copiesAtom_code _, rfl, ht⟩)
      · exact .inr ⟨_, _, rfl, rfl⟩

end Place

end LineJoin.Pattern
