import LineJoin.Proofs.Pattern.Pieces
import LineJoin.Proofs.Pattern.SimpleTree
import Mathlib.Data.List.TakeWhile

/-!
# Literals and quantifiers

A literal is a character that stands for itself, or an escape of one character. Which texts are
literals depends on what follows: a brace opens counts if counts stand there, and an octal escape
takes up to two more digits. Everything here is read where no flags are set.
-/

namespace LineJoin.Pattern

open Reader ReadState

/-- What stands behind the text of a fragment: nothing, or the parenthesis that closes it. -/
def Closes (rest : List Char) : Prop := ∀ c ∈ rest.head?, c = ')'

theorem closes_parenthesis (rest : List Char) : Closes (')' :: rest) := fun _ h =>
  (Option.some.inj h).symm

/-! ## Steps -/

theorem ne_of_kind {p : Char → Bool} {c x : Char} (hc : p c = false) (hx : p x = true) : c ≠ x := by
  rintro rfl
  rw [hx] at hc
  cases hc

section Steps

variable {s : ReadState} {text rest : List Char} {p : Char → Bool} {c : Char}

theorem run_accept_unless (hs : s.skips = false) (h : ∀ x ∈ s.rest.head?, x ≠ c) :
    (accept c).run s = .ok (false, s) := by
  cases hrest : s.rest with
  | nil => exact run_accept_end hrest c
  | cons x rest => exact run_accept_other (sees_exact hrest hs) (h x (by rw [hrest]; rfl))

theorem run_takeExactly (h : s.rest = text ++ rest) (htext : ∀ x ∈ text, p x = true)
    (hrest : ∀ x ∈ rest.head?, p x = false) :
    (takeExactly p).run s = .ok (text, s.past text.length rest) := by
  have hhead : rest.takeWhile p = [] ∧ rest.dropWhile p = rest := by
    cases rest with
    | nil => exact ⟨rfl, rfl⟩
    | cons x rest => simp [hrest x rfl]
  have htake : (text ++ rest).takeWhile p = text := by
    rw [List.takeWhile_append_of_pos htext, hhead.1, List.append_nil]
  have hdrop : (text ++ rest).dropWhile p = rest := by
    rw [List.dropWhile_append_of_pos htext, hhead.2]
  rw [takeExactly, run_bind_ok (run_get s), h, htake, hdrop]
  rfl

theorem run_takeWhile_exact (hs : s.skips = false) (h : s.rest = text ++ rest)
    (htext : ∀ x ∈ text, p x = true) (hrest : ∀ x ∈ rest.head?, p x = false) :
    (Reader.takeWhile p).run s = .ok (text, s.past text.length rest) := by
  rw [Reader.takeWhile, run_bind_ok (run_get s), if_neg (by rw [hs]; exact Bool.false_ne_true)]
  exact run_takeExactly h htext hrest

theorem run_takeDigit_none (hs : s.skips = false) (h : ∀ x ∈ s.rest.head?, p x = false) :
    (takeDigit p).run s = .ok (none, s) := by
  cases hrest : s.rest with
  | nil =>
    refine run_attempt_none (t := s) ?_
    rw [run_bind_ok (run_next_end hrest)]
    rfl
  | cons x rest =>
    refine run_attempt_none (t := s.past 1 rest) ?_
    rw [run_bind_ok (run_next (sees_exact hrest hs))]
    simp only [h x (by rw [hrest]; rfl), Bool.false_eq_true, if_false]
    rfl

/-- As many octal digits as there are, up to a number of them. -/
theorem run_takeOctal {digits : List Char} {n : Nat} (hs : s.skips = false)
    (h : s.rest = digits ++ rest) (hdigits : ∀ d ∈ digits, isOctal d = true)
    (hlength : digits.length = n ∨ digits.length < n ∧ ∀ x ∈ rest.head?, isOctal x = false) :
    (readOctal.takeOctal n).run s = .ok (digits, s.past digits.length rest) := by
  induction digits generalizing n s with
  | nil =>
    obtain rfl : s.rest = rest := h
    cases n with
    | zero => rfl
    | succ n =>
      have hnone := run_takeDigit_none hs
        (hlength.resolve_left fun h => absurd h (Nat.succ_ne_zero n).symm).2
      exact (run_bind_ok hnone).trans rfl
  | cons d digits ih =>
    obtain ⟨hd, hdigits⟩ := List.forall_mem_cons.mp hdigits
    obtain ⟨n, rfl⟩ : ∃ k, n = k + 1 := ⟨n - 1, by rw [List.length_cons] at hlength; omega⟩
    have hsome := run_takeDigit (p := isOctal) (sees_exact h hs) hd
    have hlength' : digits.length = n ∨
        digits.length < n ∧ ∀ x ∈ rest.head?, isOctal x = false := by
      rw [List.length_cons] at hlength
      exact hlength.imp Nat.succ.inj (.imp_left Nat.lt_of_succ_lt_succ)
    have hmore := ih (s := s.past 1 (digits ++ rest)) hs rfl hdigits hlength'
    refine (run_bind_ok hsome).trans ((run_bind_ok hmore).trans ?_)
    rw [past_past, Nat.add_comm 1]
    rfl

end Steps

/-! ## Escapes -/

section Escapes

variable {s : ReadState} {rest : List Char} {c : Char}

theorem hexEscapeLength?_none (hx : c ≠ 'x') (hu : c ≠ 'u') (hU : c ≠ 'U') :
    hexEscapeLength? c = none := by
  rw [hexEscapeLength?]
  · exact hx
  · exact hu
  · exact hU

theorem run_readEscape_sign (h : s.rest = c :: rest) (hletter : c.isAlpha = false)
    (hdigit : isDigit c = false) :
    (readEscape false).run s = .ok (.code c.toNat, s.past 1 rest) := by
  have hne (x : Char) (hx : x.isAlpha = true) : c ≠ x := ne_of_kind hletter hx
  have hhex := hexEscapeLength?_none (hne 'x' (by decide)) (hne 'u' (by decide))
    (hne 'U' (by decide))
  rw [readEscape, run_bind_ok (run_nextExact h)]
  simp only [hhex, hne 'g' (by decide), hne 'N' (by decide), hne 'p' (by decide),
    hne 'P' (by decide), hne 'R' (by decide), hne 'X' (by decide), hne 'L' (by decide), hletter,
    hdigit, decide_false, Bool.false_and, Bool.false_eq_true, if_false]
  rfl

/-- A letter that stands for a control character. The letter `b` does so in a class only. -/
theorem run_readEscape_control {n : Nat} (h : s.rest = c :: rest) (hc : controlEscape? c = some n)
    (hb : c ≠ 'b') : (readEscape false).run s = .ok (.code n, s.past 1 rest) := by
  rw [readEscape, run_bind_ok (run_nextExact h)]
  unfold controlEscape? at hc
  split at hc
  · cases hc; rfl
  · exact absurd rfl hb
  · cases hc; rfl
  · cases hc; rfl
  · cases hc; rfl
  · cases hc; rfl
  · cases hc; rfl
  · cases hc

theorem run_readEscape_digit (h : s.rest = c :: rest) (hdigit : isDigit c = true) :
    (readEscape false).run s =
      (if c = '0' then readOctal c else readNumeric c).run (s.past 1 rest) := by
  have hne (x : Char) (hx : isDigit x = false) : c ≠ x := (ne_of_kind hx hdigit).symm
  have hhex := hexEscapeLength?_none (hne 'x' (by decide)) (hne 'u' (by decide))
    (hne 'U' (by decide))
  rw [readEscape, run_bind_ok (run_nextExact h)]
  simp only [hhex, hne 'g' (by decide), hne 'N' (by decide), hne 'p' (by decide),
    hne 'P' (by decide), hne 'R' (by decide), hne 'X' (by decide), hne 'L' (by decide), hdigit,
    decide_false, Bool.false_and, Bool.false_or, Bool.false_eq_true, if_false, if_true,
    decide_eq_true_eq]

theorem run_readEscape_octal {digits : List Char} (hs : s.skips = false)
    (h : s.rest = '0' :: (digits ++ rest)) (hdigits : ∀ d ∈ digits, isOctal d = true)
    (hlength : digits.length = 2 ∨ digits.length < 2 ∧ ∀ x ∈ rest.head?, isOctal x = false) :
    (readEscape false).run s =
      .ok (.code (octalValue ('0' :: digits)), s.past (digits.length + 1) rest) := by
  have htake := run_takeOctal (s := s.past 1 (digits ++ rest)) hs rfl hdigits hlength
  rw [past_past, Nat.add_comm 1] at htake
  have hall : ('0' :: digits).all isOctal = true := by
    rw [List.all_cons, List.all_eq_true.mpr hdigits]
    rfl
  rw [run_readEscape_digit h (by decide), if_pos rfl, readOctal, run_bind_ok htake]
  simp only [hall, if_true]
  rfl

theorem isDigit_of_isOctal (h : isOctal c = true) : isDigit c = true := by
  simp only [isOctal, isDigit, Bool.and_eq_true, decide_eq_true_eq] at h ⊢
  exact ⟨h.1, Char.le_trans h.2 (by decide)⟩

/-- Three octal digits are an escape, and no number of a group. -/
theorem run_readEscape_triple {a b d : Char} (hs : s.skips = false)
    (h : s.rest = a :: b :: d :: rest) (hzero : a ≠ '0')
    (hdigits : ∀ x ∈ [a, b, d], isOctal x = true) :
    (readEscape false).run s = .ok (.code (octalValue [a, b, d] % 512), s.past 3 rest) := by
  have ha := hdigits a (by simp)
  have hb := hdigits b (by simp)
  have hd := hdigits d (by simp)
  have hsecond := run_takeDigit (p := isDigit)
    (sees_exact (s := s.past 1 (b :: d :: rest)) rfl hs) (isDigit_of_isOctal hb)
  have hthird := run_takeDigit (p := isOctal)
    (sees_exact (s := (s.past 1 (b :: d :: rest)).past 1 (d :: rest)) rfl hs) hd
  have hboth : (isOctal a && isOctal b) = true := by rw [ha, hb]; rfl
  rw [run_readEscape_digit h (isDigit_of_isOctal ha), if_neg hzero, readNumeric,
    run_bind_ok hsecond]
  simp only [if_pos hboth]
  exact (run_bind_ok hthird).trans rfl

theorem run_readEscape_named {name : List Char} {n : Nat} (hs : s.skips = false)
    (h : s.rest = 'N' :: '\x7b' :: (name ++ '\x7d' :: rest))
    (hname : ∀ x ∈ name, isNamePart x = true) (hn : characterNamed? name = some n) :
    (readEscape false).run s = .ok (.code n, s.past (name.length + 3) rest) := by
  let t := s.past 1 ('\x7b' :: (name ++ '\x7d' :: rest))
  let u := t.past 1 (name ++ '\x7d' :: rest)
  have hopen : (accept '\x7b').run t = .ok (true, u) := run_accept (sees_exact rfl hs)
  have htake : (takeExactly isNamePart).run u = .ok (name, u.past name.length ('\x7d' :: rest)) :=
    run_takeExactly rfl hname fun x hx => by
      obtain rfl := Option.some.inj hx
      decide
  have hclose : (accept '\x7d').run (u.past name.length ('\x7d' :: rest)) =
      .ok (true, (u.past name.length ('\x7d' :: rest)).past 1 rest) := run_accept (sees_exact rfl hs)
  have hread : readNamedCharacter.run t =
      .ok (.code n, (u.past name.length ('\x7d' :: rest)).past 1 rest) := by
    rw [readNamedCharacter, run_bind_ok (run_attempt_some (a := name)
      (t := (u.past name.length ('\x7d' :: rest)).past 1 rest) ?_)]
    · have hfound : CharacterNames.character? name = some n := hn
      simp only [hfound]
      rfl
    · refine (run_bind_ok hopen).trans ((run_bind_ok htake).trans ?_)
      exact (run_bind_ok hclose).trans rfl
  rw [readEscape, run_bind_ok (run_nextExact h)]
  refine hread.trans ?_
  simp only [t, u, past_past]
  rw [show 1 + 1 + name.length + 1 = name.length + 3 by omega]

end Escapes

/-! ## Counts -/

/-- Whether the counts of a repetition, with their closing brace, stand at the start of a text. -/
def countsFirst (text : List Char) : Bool :=
  match text.dropWhile isDigit with
  | '\x7d' :: _ => !(text.takeWhile isDigit).isEmpty
  | ',' :: rest => (rest.dropWhile isDigit).head? == some '\x7d'
  | _ => false

section Counts

variable {s : ReadState} {more rest : List Char}

theorem Closes.not_digit (h : Closes rest) : ∀ x ∈ rest.head?, isDigit x = false := fun x hx => by
  rw [h x hx]
  decide

/-- The digits in front of a text, and what is left of it. -/
theorem run_takeDigits (hs : s.skips = false) (hclose : Closes rest) (h : s.rest = more ++ rest) :
    (Reader.takeWhile isDigit).run s = .ok (more.takeWhile isDigit,
      s.past (more.takeWhile isDigit).length (more.dropWhile isDigit ++ rest)) := by
  rw [← List.takeWhile_append_dropWhile (p := isDigit) (l := more), List.append_assoc] at h
  refine run_takeWhile_exact hs h (fun x hx => List.mem_takeWhile_imp hx) fun x hx => ?_
  cases hdrop : more.dropWhile isDigit with
  | nil =>
    rw [hdrop] at hx
    exact hclose.not_digit x hx
  | cons c r =>
    rw [hdrop] at hx
    obtain rfl := Option.some.inj hx
    have hne : more.dropWhile isDigit ≠ [] := by rw [hdrop]; exact List.cons_ne_nil _ _
    have hhead := List.head_dropWhile_not isDigit hne
    simpa only [hdrop, List.head_cons] using hhead

theorem countsFirst_comma {r : List Char} (hdrop : more.dropWhile isDigit = ',' :: r)
    (h : countsFirst more = false) : ∀ x ∈ (r.dropWhile isDigit).head?, x ≠ '\x7d' := by
  rintro x hx rfl
  rw [countsFirst, hdrop] at h
  simp only [Option.mem_def.mp hx] at h
  cases h

theorem countsFirst_close {r : List Char} (hdrop : more.dropWhile isDigit = '\x7d' :: r)
    (h : countsFirst more = false) : (more.takeWhile isDigit).isEmpty = true := by
  rw [countsFirst, hdrop] at h
  simpa using h

/-- What comes first in front of a closing parenthesis or the end. -/
theorem Closes.head_append {x : Char} (h : Closes rest) (hx : x ≠ ')')
    (hmore : ∀ y ∈ more.head?, y ≠ x) : ∀ y ∈ (more ++ rest).head?, y ≠ x := by
  cases more with
  | nil => exact fun y hy => h y hy ▸ hx.symm
  | cons c r => exact hmore

/-- A brace stands for itself if no counts follow. -/
theorem run_readCounts_none (hs : s.skips = false) (hclose : Closes rest)
    (h : s.rest = more ++ rest) (hcounts : countsFirst more = false) :
    readCounts.run s = .ok (none, s) := by
  have hdigits := run_takeDigits hs hclose h
  rw [readCounts, run_bind_ok (run_position s)]
  -- The digits end at a comma, behind which no brace closes the counts, or the counts end there.
  by_cases hcomma : ∃ r, more.dropWhile isDigit = ',' :: r
  · obtain ⟨r, hdrop⟩ := hcomma
    rw [hdrop] at hdigits
    let t := s.past (more.takeWhile isDigit).length (',' :: (r ++ rest))
    let u := t.past 1 (r ++ rest)
    let v := u.past (r.takeWhile isDigit).length (r.dropWhile isDigit ++ rest)
    have hmost := run_takeDigits (s := u) hs hclose rfl
    have hbrace := run_accept_unless (s := v) hs
      (hclose.head_append (by decide) (countsFirst_comma hdrop hcounts))
    refine (run_bind_ok (run_attempt_none (t := v) ((run_bind_ok hdigits).trans ?_))).trans rfl
    refine (run_bind_ok (run_accept (sees_exact (s := t) rfl hs))).trans ?_
    refine (run_bind_ok hmost).trans ((run_bind_ok (run_pure _ v)).trans ?_)
    exact (run_bind_ok hbrace).trans rfl
  · have hhead : ∀ x ∈ (more.dropWhile isDigit).head?, x ≠ ',' := by
      rintro x hx rfl
      obtain ⟨r, hr⟩ := List.head?_eq_some_iff.mp hx
      exact hcomma ⟨r, hr⟩
    let t := s.past (more.takeWhile isDigit).length (more.dropWhile isDigit ++ rest)
    have haccept := run_accept_unless (s := t) hs (hclose.head_append (by decide) hhead)
    refine (run_bind_ok (run_attempt_none (t := t) ((run_bind_ok hdigits).trans ?_))).trans rfl
    by_cases hempty : (more.takeWhile isDigit).isEmpty = true
    · refine (run_bind_ok haccept).trans ?_
      simp only [hempty, if_true]
      rfl
    · have hother : ∀ x ∈ (more.dropWhile isDigit).head?, x ≠ '\x7d' := by
        rintro x hx rfl
        obtain ⟨r, hr⟩ := List.head?_eq_some_iff.mp hx
        exact hempty (countsFirst_close hr hcounts)
      have hbrace := run_accept_unless (s := t) hs (hclose.head_append (by decide) hother)
      refine (run_bind_ok haccept).trans ?_
      simp only [hempty, Bool.false_eq_true, if_false]
      exact (run_bind_ok (run_pure _ t)).trans ((run_bind_ok hbrace).trans rfl)

/-- The counts are within the limit and the second one is not less than the first. -/
structure Quantifier.Fits (q : Quantifier) : Prop where
  least : q.least < countLimit
  most : ∀ m ∈ q.most, q.least ≤ m ∧ m < countLimit

theorem Quantifier.Fits.checks {q : Quantifier} (h : q.Fits) :
    (decide (countLimit ≤ q.least) || q.most.any (countLimit ≤ ·)) = false ∧
      q.most.any (· < q.least) = false := by
  obtain ⟨least, most⟩ := q
  have hleast := decide_eq_false (Nat.not_le.mpr h.least)
  cases most with
  | none => exact ⟨Bool.or_eq_false_iff.mpr ⟨hleast, rfl⟩, rfl⟩
  | some m =>
    obtain ⟨hle, hlimit⟩ := h.most m rfl
    exact ⟨Bool.or_eq_false_iff.mpr ⟨hleast, decide_eq_false (Nat.not_le.mpr hlimit)⟩,
      decide_eq_false (Nat.not_lt.mpr hle)⟩

/-- Digits end in front of any other character. -/
theorem run_takeDigits_exact {ds r : List Char} {c : Char} (hs : s.skips = false)
    (h : s.rest = ds ++ c :: r) (hds : ∀ d ∈ ds, isDigit d = true) (hc : isDigit c = false) :
    (Reader.takeWhile isDigit).run s = .ok (ds, s.past ds.length (c :: r)) :=
  run_takeWhile_exact hs h hds fun x hx => by
    obtain rfl := Option.some.inj hx
    exact hc

theorem run_readCounts_exactly {ds : List Char} (hs : s.skips = false)
    (h : s.rest = ds ++ '\x7d' :: rest) (hne : ds ≠ []) (hds : ∀ d ∈ ds, isDigit d = true)
    (hfits : Quantifier.Fits ⟨digitsValue ds, some (digitsValue ds)⟩) :
    readCounts.run s =
      .ok (some ⟨digitsValue ds, some (digitsValue ds)⟩, s.past (ds.length + 1) rest) := by
  let t := s.past ds.length ('\x7d' :: rest)
  have hdigits := run_takeDigits_exact hs h hds (by decide)
  have hcomma := run_accept_other (sees_exact (s := t) rfl hs) (show '\x7d' ≠ ',' by decide)
  have hclose := run_accept (sees_exact (s := t) rfl hs)
  have hempty : ds.isEmpty = false := by simpa using hne
  obtain ⟨hlimit, hle⟩ := hfits.checks
  rw [readCounts, run_bind_ok (run_position s), run_bind_ok (run_attempt_some
    (a := ⟨digitsValue ds, some (digitsValue ds)⟩) (t := t.past 1 rest) ?_)]
  · simp only [hlimit, hle, Bool.false_eq_true, if_false]
    rw [past_past]
    rfl
  · refine (run_bind_ok hdigits).trans ((run_bind_ok hcomma).trans ?_)
    simp only [Bool.false_eq_true, if_false, hempty]
    exact (run_bind_ok (run_pure _ t)).trans ((run_bind_ok hclose).trans rfl)

theorem run_readCounts_comma {ds es : List Char} {most : Option Nat} (hs : s.skips = false)
    (h : s.rest = ds ++ ',' :: (es ++ '\x7d' :: rest)) (hds : ∀ d ∈ ds, isDigit d = true)
    (hes : ∀ d ∈ es, isDigit d = true)
    (hmost : most = if es.isEmpty then none else some (digitsValue es))
    (hfits : Quantifier.Fits ⟨digitsValue ds, most⟩) :
    readCounts.run s =
      .ok (some ⟨digitsValue ds, most⟩, s.past (ds.length + es.length + 2) rest) := by
  let t := s.past ds.length (',' :: (es ++ '\x7d' :: rest))
  let u := t.past 1 (es ++ '\x7d' :: rest)
  let v := u.past es.length ('\x7d' :: rest)
  have hleast := run_takeDigits_exact hs h hds (by decide)
  have hcomma := run_accept (sees_exact (s := t) rfl hs)
  have hdigits := run_takeDigits_exact (s := u) hs rfl hes (by decide)
  have hclose := run_accept (sees_exact (s := v) rfl hs)
  obtain ⟨hlimit, hle⟩ := hfits.checks
  have hpast : v.past 1 rest = s.past (ds.length + es.length + 2) rest := by
    simp only [v, u, t, past_past]
    rw [show ds.length + (1 + es.length) + 1 = ds.length + es.length + 2 by omega]
  rw [readCounts, run_bind_ok (run_position s), run_bind_ok (run_attempt_some
    (a := ⟨digitsValue ds, most⟩) (t := v.past 1 rest) ?_)]
  · simp only [hlimit, hle, Bool.false_eq_true, if_false]
    rw [hpast]
    rfl
  · refine (run_bind_ok hleast).trans ((run_bind_ok hcomma).trans ?_)
    simp only [if_true]
    refine (run_bind_ok hdigits).trans ?_
    rw [hmost]
    exact (run_bind_ok (run_pure _ v)).trans ((run_bind_ok hclose).trans rfl)

end Counts

/-! ## Limits of errors -/

/-- Whether limits on the errors of a match stand at the start of a text, as they may in braces: a
kind of error, or a number in front of a kind or of a comparison. -/
def limitsFirst (text : List Char) : Bool :=
  (text.dropWhile isDigit).head?.any fun c => ['d', 'i', 's'].contains c ||
    if (text.takeWhile isDigit).isEmpty then c == 'e' else c == '<'

section Limits

variable {s : ReadState} {more rest : List Char}

theorem exists_run_next (hs : s.skips = false) : ∃ t, next.run s = .ok (s.rest.head?, t) := by
  cases hrest : s.rest with
  | nil => exact ⟨s, run_next_end hrest⟩
  | cons c rest => exact ⟨_, run_next (sees_exact hrest hs)⟩

/-- What comes after the digits is neither the name of a cost nor, after none, a kind of errors, nor
a comparison after some. -/
theorem limitsFirst_other (hclose : Closes rest) (h : limitsFirst more = false) :
    ∀ c ∈ (more.dropWhile isDigit ++ rest).head?, c ∉ ['d', 'i', 's'] ∧
      (more.takeWhile isDigit = [] → c ≠ 'e') ∧ (more.takeWhile isDigit ≠ [] → c ≠ '<') := by
  intro c hc
  cases hdrop : more.dropWhile isDigit with
  | nil =>
    rw [hdrop] at hc
    obtain rfl := hclose c hc
    exact ⟨by decide, fun _ => by decide, fun _ => by decide⟩
  | cons x r =>
    rw [hdrop] at hc
    obtain rfl := Option.some.inj hc
    rw [limitsFirst, hdrop, List.head?_cons, Option.any_some, Bool.or_eq_false_iff] at h
    refine ⟨?_, fun hnil => ?_, fun hne => ?_⟩
    · simpa using h.1
    · simpa [hnil] using h.2
    · simpa [hne] using h.2

theorem isAlpha_of_isDigit {c : Char} (h : isDigit c = true) : c.isAlpha = false := by
  have hhigh : c.val.toNat ≤ 57 := by
    rw [isDigit, Bool.and_eq_true, decide_eq_true_eq, decide_eq_true_eq] at h
    exact h.2
  rw [Bool.eq_false_iff]
  have hletters : c.isAlpha = (decide (c.val ≥ 'A'.val ∧ c.val ≤ 'Z'.val) ||
      decide (c.val ≥ 'a'.val) && decide (c.val ≤ 'z'.val)) := rfl
  intro halpha
  simp only [hletters, Bool.or_eq_true, Bool.and_eq_true, decide_eq_true_eq, ge_iff_le,
    UInt32.le_iff_toNat_le] at halpha
  rcases halpha with ⟨hlow, -⟩ | ⟨hlow, -⟩
  · exact absurd (Nat.le_trans hlow hhigh) (by decide)
  · exact absurd (Nat.le_trans hlow hhigh) (by decide)

theorem run_checkKind_none {c : Char} (hc : c ∉ ['d', 'i', 's']) (he : c ≠ 'e') (l : Limits) :
    (checkKind l (some c)).run s = .ok (none, s) := by
  have hkind : errorKind? c = none := by
    simp only [List.mem_cons, List.not_mem_nil, or_false, not_or] at hc
    simp [errorKind?, hc, he]
  rw [checkKind, Option.bind_some, hkind]
  rfl

theorem Closes.head_not_digit (hclose : Closes rest) (h : more.takeWhile isDigit = []) :
    ∀ c ∈ (more ++ rest).head?, isDigit c = false := by
  cases more with
  | nil => exact hclose.not_digit
  | cons x r =>
    intro c hc
    obtain rfl := Option.some.inj hc
    rw [List.takeWhile_cons] at h
    split at h
    · cases h
    · rename_i hx
      exact Bool.eq_false_iff.mpr hx

/-- After a number there is no comparison. -/
theorem run_readBetween_none (hs : s.skips = false) (hclose : Closes rest)
    (h : s.rest = more ++ rest) (hlimits : limitsFirst more = false)
    (hne : more.takeWhile isDigit ≠ []) : ∃ t, (readBetween {}).run s = .ok (none, t) := by
  let u := s.past (more.takeWhile isDigit).length (more.dropWhile isDigit ++ rest)
  have hlimit : readLimit.run s = .ok (digitsValue (more.takeWhile isDigit), u) := by
    rw [readLimit, run_bind_ok (run_position s), run_bind_ok (run_takeDigits hs hclose h),
      if_neg (by simpa using hne)]
    rfl
  have hsign : (accept '<').run u = .ok (false, u) :=
    run_accept_unless hs fun x hx => (limitsFirst_other hclose hlimits x hx).2.2 hne
  have hcompare : readComparison.run u = .ok (none, u) := (run_bind_ok hsign).trans rfl
  rw [readBetween, run_bind_ok (run_position s), run_bind_ok hlimit, run_bind_ok hcompare]
  exact ⟨u, rfl⟩

/-- No kind of errors stands in front of anything else. -/
theorem run_readKindLimit_none (hs : s.skips = false) (hclose : Closes rest)
    (h : s.rest = more ++ rest) (hlimits : limitsFirst more = false) :
    ∃ t, (readKindLimit {}).run s = .ok (none, t) := by
  obtain ⟨t, hnext⟩ := exists_run_next hs
  rw [readKindLimit, run_bind_ok (run_get s), run_bind_ok hnext]
  -- After a number there is no comparison, and without one the first character is no kind.
  have happend := List.takeWhile_append_dropWhile (p := isDigit) (l := more)
  cases htaken : more.takeWhile isDigit with
  | nil =>
    have hother := limitsFirst_other hclose hlimits
    rw [htaken, List.nil_append] at happend
    rw [happend, ← h] at hother
    cases hhead : s.rest.head? with
    | none => exact ⟨t, rfl⟩
    | some c =>
      obtain ⟨hcost, hany, -⟩ := hother c hhead
      have hdigit := hclose.head_not_digit htaken c (h ▸ hhead)
      dsimp only
      by_cases hletter : c.isAlpha = true
      · rw [if_pos hletter, readMost, run_bind_ok (run_checkKind_none hcost (hany htaken) {})]
        exact ⟨t, rfl⟩
      · rw [if_neg hletter, if_neg (by rw [hdigit]; exact Bool.false_ne_true)]
        exact ⟨t, rfl⟩
  | cons d ds =>
    have hd : isDigit d = true := List.mem_takeWhile_imp (htaken ▸ List.mem_cons_self)
    have hhead : s.rest.head? = some d := by
      rw [h, ← happend, htaken]
      rfl
    have hne : more.takeWhile isDigit ≠ [] := by
      rw [htaken]
      exact List.cons_ne_nil _ _
    obtain ⟨u, hbetween⟩ := run_readBetween_none hs hclose h hlimits hne
    rw [hhead]
    simp only [isAlpha_of_isDigit hd, hd, Bool.false_eq_true, if_false, if_true]
    exact ⟨u, (run_bind_ok (run_set t s)).trans hbetween⟩

/-- No cost stands in front of anything else. -/
theorem run_readCostLimit_none (hs : s.skips = false) (hclose : Closes rest)
    (h : s.rest = more ++ rest) (hlimits : limitsFirst more = false) :
    ∃ t, (readCostLimit {}).run s = .ok (none, t) := by
  have hother := limitsFirst_other hclose hlimits
  let u := s.past (more.takeWhile isDigit).length (more.dropWhile isDigit ++ rest)
  obtain ⟨t, hnext⟩ := exists_run_next (s := u) hs
  have hcost : (readCost []).run s = .ok (none, t) := by
    rw [readCost, run_bind_ok (run_takeDigits hs hclose h)]
    refine (run_bind_ok hnext).trans ?_
    cases hhead : u.rest.head? with
    | none => rfl
    | some c =>
      have hc : ['d', 'i', 's'].contains c = false := by
        simpa using (hother c hhead).1
      simp only [hc, Bool.false_eq_true, if_false]
      rfl
  have hcosts : (readCosts 4 []).run s = .ok (none, t) := by
    rw [readCosts, run_bind_ok hcost]
    rfl
  rw [readCostLimit, if_neg Bool.false_ne_true, run_bind_ok hcosts]
  exact ⟨t, rfl⟩

/-- A brace stands for itself if no limits follow. -/
theorem run_readLimits_none (hs : s.skips = false) (hclose : Closes rest)
    (h : s.rest = more ++ rest) (hlimits : limitsFirst more = false) :
    readLimits.run s = .ok (none, s) := by
  obtain ⟨t, hkind⟩ := run_readKindLimit_none hs hclose h hlimits
  obtain ⟨u, hcost⟩ := run_readCostLimit_none hs hclose h hlimits
  have hlist : (readLimitList 6 {}).run s = .ok (none, u) := by
    have hone : (readOneLimit {}).run s = .ok (none, u) := by
      rw [readOneLimit, run_bind_ok (run_attempt_none hkind)]
      exact hcost
    rw [readLimitList, run_bind_ok hone]
    rfl
  rw [readLimits, run_bind_ok (run_attempt_none hlist)]
  rfl

end Limits

/-! ## Quantifiers -/

/-- The texts of quantifiers. Counts that are too large, or of which the first is larger than the
second, are refused. -/
inductive QuantifierText : List Char → Quantifier → Prop where
  | option : QuantifierText ['?'] ⟨0, some 1⟩
  | star : QuantifierText ['*'] ⟨0, none⟩
  | plus : QuantifierText ['+'] ⟨1, none⟩
  | exactly {ds : List Char} (hne : ds ≠ []) (hds : ∀ d ∈ ds, isDigit d = true)
      (hlimit : digitsValue ds < countLimit) :
      QuantifierText ('\x7b' :: (ds ++ ['\x7d'])) ⟨digitsValue ds, some (digitsValue ds)⟩
  | atLeast {ds : List Char} (hds : ∀ d ∈ ds, isDigit d = true)
      (hlimit : digitsValue ds < countLimit) :
      QuantifierText ('\x7b' :: (ds ++ [',', '\x7d'])) ⟨digitsValue ds, none⟩
  | between {ds es : List Char} (hds : ∀ d ∈ ds, isDigit d = true) (hne : es ≠ [])
      (hes : ∀ d ∈ es, isDigit d = true) (hle : digitsValue ds ≤ digitsValue es)
      (hlimit : digitsValue es < countLimit) :
      QuantifierText ('\x7b' :: (ds ++ ',' :: (es ++ ['\x7d'])))
        ⟨digitsValue ds, some (digitsValue es)⟩

/-- The characters that begin something else than a character that stands for itself. -/
def opensElement (c : Char) : Bool := [')', '|', '\\', '(', '.', '[', '^', '$'].contains c

/-- A character that opens nothing is a quantifier, or it stands for itself. -/
theorem run_readSequence_other {s t : ReadState} {c : Char} {rest : List Char}
    {found : Option Quantifier} (h : s.Sees c rest) (hc : opensElement c = false)
    (hread : (readQuantifier c).run (s.past 1 rest) = .ok (found, t))
    (hbrace : found = none → (readBrace c).run t = .ok (none, t)) (fuel : Nat) (seq : Sequence) :
    (readSequence (fuel + 1) seq).run s =
      (found.elim (readSequence fuel (seq.push (.char s.flags.ignoreCase (.code c.toNat))))
        fun q => applyQuantifier q s.position seq >>= readSequence fuel).run t := by
  have hne (x : Char) (hx : opensElement x = true) : c ≠ x := ne_of_kind hc hx
  rw [readSequence, run_bind_ok (run_get s), run_bind_ok (run_next h)]
  simp only [hne ')' rfl, hne '|' rfl, hne '\\' rfl, hne '(' rfl, hne '.' rfl, hne '[' rfl,
    hne '^' rfl, hne '$' rfl, decide_false, Bool.or_self, Bool.false_eq_true, if_false]
  refine (run_bind_ok hread).trans ?_
  cases found with
  | none => exact (run_bind_ok (hbrace rfl)).trans rfl
  | some q => rfl

/-- A quantifier is read up to its end. -/
theorem QuantifierText.reads {text rest : List Char} {q : Quantifier} (h : QuantifierText text q)
    {s : ReadState} (hs : s.skips = false) (hrest : s.rest = text ++ rest) :
    ∃ c r, s.Sees c r ∧ opensElement c = false ∧
      (readQuantifier c).run (s.past 1 r) = .ok (some q, s.past text.length rest) := by
  cases h with
  | option => exact ⟨'?', rest, sees_exact hrest hs, rfl, rfl⟩
  | star => exact ⟨'*', rest, sees_exact hrest hs, rfl, rfl⟩
  | plus => exact ⟨'+', rest, sees_exact hrest hs, rfl, rfl⟩
  | @exactly ds hne hds hlimit =>
    have hrest' : s.rest = '\x7b' :: (ds ++ '\x7d' :: rest) := by simp [hrest]
    have hread := run_readCounts_exactly (s := s.past 1 (ds ++ '\x7d' :: rest)) hs rfl hne hds
      ⟨hlimit, fun m hm => Option.some.inj hm ▸ ⟨Nat.le_refl _, hlimit⟩⟩
    refine ⟨'\x7b', _, sees_exact hrest' hs, rfl, hread.trans ?_⟩
    rw [past_past, List.length_cons, List.length_append, Nat.add_comm 1]
    rfl
  | @atLeast ds hds hlimit =>
    have hrest' : s.rest = '\x7b' :: (ds ++ ',' :: ([] ++ '\x7d' :: rest)) := by simp [hrest]
    have hread := run_readCounts_comma (s := s.past 1 (ds ++ ',' :: ([] ++ '\x7d' :: rest))) hs rfl
      hds (fun _ hd => nomatch hd) rfl ⟨hlimit, fun _ hm => nomatch hm⟩
    refine ⟨'\x7b', _, sees_exact hrest' hs, rfl, hread.trans ?_⟩
    rw [past_past, List.length_cons, List.length_append, Nat.add_comm 1]
    rfl
  | @between ds es hds hne hes hle hlimit =>
    have hrest' : s.rest = '\x7b' :: (ds ++ ',' :: (es ++ '\x7d' :: rest)) := by simp [hrest]
    have hmost : some (digitsValue es) = if es.isEmpty then none else some (digitsValue es) := by
      rw [if_neg (by simpa using hne)]
    have hread := run_readCounts_comma (s := s.past 1 (ds ++ ',' :: (es ++ '\x7d' :: rest))) hs rfl
      hds hes hmost ⟨Nat.lt_of_le_of_lt hle hlimit,
        fun m hm => Option.some.inj hm ▸ ⟨hle, hlimit⟩⟩
    refine ⟨'\x7b', _, sees_exact hrest' hs, rfl, hread.trans ?_⟩
    rw [past_past]
    simp only [List.length_cons, List.length_append, List.length_nil]
    rw [show 1 + (ds.length + es.length + 2) = ds.length + (es.length + 1 + 1) + 1 by omega]

/-! ## Literals -/

/-- An escape of one character; its text does not hold the backslash. -/
inductive CodeEscape (more : List Char) : List Char → Nat → Prop where
  | sign {c : Char} (hletter : c.isAlpha = false) (hdigit : isDigit c = false) :
      CodeEscape more [c] c.toNat
  | control {c : Char} {n : Nat} (hc : controlEscape? c = some n) (hb : c ≠ 'b') :
      CodeEscape more [c] n
  | hex {letter : Char} {digits : List Char} (hlength : hexEscapeLength? letter = some digits.length)
      (hdigits : ∀ c ∈ digits, (Span.hexValue? c).isSome = true)
      (hvalue : Span.hexNumber digits < 0x110000) :
      CodeEscape more (letter :: digits) (Span.hexNumber digits)
  | octal {digits : List Char} (hdigits : ∀ d ∈ digits, isOctal d = true)
      (hlength : digits.length = 2 ∨ digits.length < 2 ∧ ∀ x ∈ more.head?, isOctal x = false) :
      CodeEscape more ('0' :: digits) (octalValue ('0' :: digits))
  | triple {a b d : Char} (hzero : a ≠ '0') (hdigits : ∀ x ∈ [a, b, d], isOctal x = true) :
      CodeEscape more [a, b, d] (octalValue [a, b, d] % 512)
  | named {name : List Char} {n : Nat} (hname : ∀ x ∈ name, isNamePart x = true)
      (hn : characterNamed? name = some n) :
      CodeEscape more ('N' :: '\x7b' :: (name ++ ['\x7d'])) n

/-- The texts that stand for one character in front of more text. -/
inductive Literal (more : List Char) : List Char → Nat → Prop where
  | plain {c : Char} (hopens : opensElement c = false)
      (hquantifies : ['?', '*', '+', '\x7b'].contains c = false) : Literal more [c] c.toNat
  | brace (hcounts : countsFirst more = false) (hlimits : limitsFirst more = false) :
      Literal more ['\x7b'] '\x7b'.toNat
  | escape {text : List Char} {n : Nat} (h : CodeEscape more text n) : Literal more ('\\' :: text) n

section Reading

variable {s : ReadState} {text more rest : List Char} {n : Nat}

theorem CodeEscape.reads (h : CodeEscape more text n) (hs : s.skips = false) (hclose : Closes rest)
    (hrest : s.rest = text ++ (more ++ rest)) :
    (readEscape false).run s = .ok (.code n, s.past text.length (more ++ rest)) := by
  cases h with
  | sign hletter hdigit => exact run_readEscape_sign hrest hletter hdigit
  | control hc hb => exact run_readEscape_control hrest hc hb
  | hex hlength hdigits hvalue => exact run_readEscape_digits hlength hdigits hvalue hrest false
  | octal hdigits hlength =>
    refine run_readEscape_octal hs hrest hdigits (hlength.imp_right fun ⟨hlt, hmore⟩ => ⟨hlt, ?_⟩)
    cases more with
    | nil => exact fun x hx => by rw [hclose x hx]; decide
    | cons c r => exact hmore
  | triple hzero hdigits => exact run_readEscape_triple hs hrest hzero hdigits
  | @named name _ hname hn =>
    have hrest' : s.rest = 'N' :: '\x7b' :: (name ++ '\x7d' :: (more ++ rest)) := by simp [hrest]
    rw [run_readEscape_named hs hrest' hname hn]
    simp

/-- A literal is read as its character. -/
theorem Literal.reads (h : Literal more text n) (hs : s.Bare) (hclose : Closes rest)
    (hrest : s.rest = text ++ (more ++ rest)) (fuel : Nat) (seq : Sequence) :
    (readSequence (fuel + 1) seq).run s =
      (readSequence fuel (seq.push (.char false (.code n)))).run
        (s.past text.length (more ++ rest)) := by
  have hcase : s.flags.ignoreCase = false := by rw [hs.flags]
  cases h with
  | @plain c hopens hquantifies =>
    have hne (x : Char) (hx : ['?', '*', '+', '\x7b'].contains x = true) : c ≠ x :=
      ne_of_kind hquantifies hx
    have hread : (readQuantifier c).run (s.past 1 (more ++ rest)) =
        .ok (none, s.past 1 (more ++ rest)) := by
      rw [readQuantifier]
      · rfl
      all_goals exact hne _ rfl
    have hbrace : (readBrace c).run (s.past 1 (more ++ rest)) =
        .ok (none, s.past 1 (more ++ rest)) := by
      rw [readBrace, if_neg (hne '\x7b' rfl)]
      rfl
    rw [run_readSequence_other (sees_exact hrest hs.skips) hopens hread (fun _ => hbrace), hcase]
    rfl
  | brace hcounts hlimits =>
    have hread := run_readCounts_none (s := s.past 1 (more ++ rest)) hs.skips hclose rfl hcounts
    have hbrace := run_readLimits_none (s := s.past 1 (more ++ rest)) hs.skips hclose rfl hlimits
    rw [run_readSequence_other (sees_exact hrest hs.skips) rfl hread (fun _ => hbrace), hcase]
    rfl
  | @escape text n h =>
    have hread := h.reads (s := s.past 1 (text ++ (more ++ rest))) hs.skips hclose rfl
    rw [past_past, Nat.add_comm 1] at hread
    rw [run_readSequence_escape hrest hread, hcase]
    rfl

end Reading

end LineJoin.Pattern
