import LineJoin.Proofs.Pattern.Classes

/-!
# References to properties

Whether a text refers to a property is asked of the reader: `reference?` reads the text alone, in
the braces of a property. `reference?_eq_some_iff` says how the references are spelled, and
`readsMember_reference` that a reference in a class is read as the same property whatever stands
behind it.
-/

namespace LineJoin.Pattern

open Reader ReadState

variable [CharacterNames]

/-- The property that a text in braces is read as if nothing of it is left over. The sign is negative
for a property that the character is not to have. -/
def reference? (name : List Char) : Option (Property × Bool) :=
  match (readProperty true).run (.start ('\x7b' :: (name ++ ['\x7d'])) {}) with
  | .ok (.property p positive, t) => if t.rest.isEmpty then some (p, positive) else none
  | _ => none

/-- A code point has the property that is referred to, or does not have the one that is excluded. -/
def MeetsReference (name : List Char) (c : Nat) : Prop :=
  ∃ p positive, reference? name = some (p, positive) ∧ p.holds c = positive

/-- The spelling of references. A caret excludes the property. -/
inductive Refers : List Char → Property → Bool → Prop where
  | having {name : List Char} {p : Property} (h : NamesProperty name p) : Refers name p true
  | lacking {name : List Char} {p : Property} (h : NamesProperty name p) :
      Refers ('^' :: name) p false

variable {s t u : ReadState} {rest name : List Char} {p : Property} {positive : Bool}

theorem Refers.run_readProperty (hp : Refers name p positive) (hs : s.skips = false)
    (h : s.rest = '\x7b' :: (name ++ '\x7d' :: rest)) :
    (readProperty true).run s = .ok (.property p positive, s.past (name.length + 2) rest) := by
  have hvisible {text : List Char} : s.skips = true → ∀ c ∈ text, visible c = true :=
    fun hskips => absurd (hs.symm.trans hskips) Bool.false_ne_true
  cases hp with
  | having hp => exact Pattern.run_readProperty hp h hvisible true
  | @lacking name _ hp =>
    have hcaret : (s.past 1 ('^' :: (name ++ '\x7d' :: rest))).Sees '^' (name ++ '\x7d' :: rest) :=
      sees_visible rfl (by decide)
    have hsign := run_accept hcaret
    rw [past_past] at hsign
    rw [run_readProperty_signed hp (sees_exact h hs) hsign hvisible, List.length_cons,
      show 1 + 1 + name.length + 1 = name.length + 1 + 2 by omega]
    rfl

/-- A reference after the backslash. -/
theorem Refers.run_readEscape (hp : Refers name p positive) (hs : s.skips = false)
    (h : s.rest = 'p' :: '\x7b' :: (name ++ '\x7d' :: rest)) :
    (readEscape true).run s = .ok (.property p positive, s.past (name.length + 3) rest) := by
  have hread := hp.run_readProperty (s := s.past 1 ('\x7b' :: (name ++ '\x7d' :: rest))) hs rfl
  rw [past_past, Nat.add_comm 1] at hread
  rw [readEscape, run_bind_ok (run_nextExact h)]
  exact hread

section Spelling

omit [CharacterNames] in
/-- The first character of another kind in a text that is closed by a brace: the brace itself, or
one before it. -/
theorem exists_first_other {q : Char → Bool} (hq : q '\x7d' = false) (text : List Char) :
    ∃ taken c rest, text ++ ['\x7d'] = taken ++ c :: rest ∧ (∀ x ∈ taken, q x = true) ∧
      q c = false := by
  have hsome : ((text ++ ['\x7d']).find? fun x => !q x).isSome = true := by
    rw [List.find?_isSome]
    exact ⟨'\x7d', by simp, by simp [hq]⟩
  obtain ⟨c, hc⟩ := Option.isSome_iff_exists.mp hsome
  obtain ⟨hother, taken, rest, htext, htaken⟩ := List.find?_eq_some_iff_append.mp hc
  exact ⟨taken, c, rest, htext, by simpa using htaken, by simpa using hother⟩

omit [CharacterNames] in
theorem exists_inner {taken : List Char} {c : Char} (hsplit : name ++ ['\x7d'] = taken ++ c :: rest)
    (hc : c ≠ '\x7d') : ∃ inner, rest = inner ++ ['\x7d'] ∧ name = taken ++ c :: inner := by
  rcases List.eq_nil_or_concat rest with rfl | ⟨inner, z, rfl⟩
  · obtain ⟨-, hbrace⟩ := List.append_inj' hsplit rfl
    exact absurd (List.cons.inj hbrace).1.symm hc
  · rw [List.concat_eq_append, ← List.cons_append, ← List.append_assoc] at hsplit
    obtain ⟨hname, hz⟩ := List.append_inj' hsplit rfl
    exact ⟨inner, by rw [List.concat_eq_append, (List.cons.inj hz).1], hname⟩

omit [CharacterNames] in
theorem run_accept_true {c x : Char} (h : s.Sees c rest)
    (hrun : (accept x).run s = .ok (true, t)) : c = x ∧ t = s.past 1 rest := by
  by_cases hc : c = x
  · subst hc
    rw [run_accept h] at hrun
    cases hrun
    exact ⟨rfl, rfl⟩
  · rw [run_accept_other h hc] at hrun
    cases hrun

omit [CharacterNames] in
/-- The closing brace is the last character, so all that is before it has been taken. -/
theorem eq_of_closed {taken : List Char} {c : Char} (hsplit : name ++ ['\x7d'] = taken ++ c :: rest)
    (hsees : s.Sees c rest) (hclose : (accept '\x7d').run s = .ok (true, t)) (ht : t.rest = []) :
    name = taken := by
  obtain ⟨rfl, rfl⟩ := run_accept_true hsees hclose
  obtain rfl : rest = [] := ht
  exact (List.append_inj' hsplit rfl).1

omit [CharacterNames] in
/-- The sign before a name. -/
theorem caret_cases {negated : Bool} (hs : s.skips = false) (h : s.rest = name ++ ['\x7d'])
    (hrun : (accept '^').run s = .ok (negated, t)) :
    negated = false ∧ t = s ∨
      negated = true ∧ ∃ more, name = '^' :: more ∧ t = s.past 1 (more ++ ['\x7d']) := by
  cases name with
  | nil =>
    have hsees : s.Sees '\x7d' [] := sees_exact h hs
    rw [run_accept_other hsees (by decide)] at hrun
    cases hrun
    exact .inl ⟨rfl, rfl⟩
  | cons c more =>
    have hsees : s.Sees c (more ++ ['\x7d']) := sees_exact h hs
    by_cases hc : c = '^'
    · subst hc
      rw [run_accept hsees] at hrun
      cases hrun
      exact .inr ⟨rfl, more, rfl, rfl⟩
    · rw [run_accept_other hsees hc] at hrun
      cases hrun
      exact .inl ⟨rfl, rfl⟩

theorem found_of_findProperty {property : Option (List Char)} {value : List Char}
    (h : (findProperty false property value).run s = .ok (p, t)) :
    (property = none ∧ CharacterNames.property? value = some p ∨
      ∃ name, property = some name ∧ CharacterNames.qualified? name value = .found p) ∧ t = s := by
  cases property with
  | none =>
    simp only [findProperty, Bool.false_eq_true, if_false] at h
    cases hp : CharacterNames.property? value <;> rw [hp] at h <;> cases h
    exact ⟨.inl ⟨rfl, rfl⟩, rfl⟩
  | some name =>
    rw [findProperty] at h
    cases hp : CharacterNames.qualified? name value <;> rw [hp] at h <;> cases h
    exact ⟨.inr ⟨name, rfl, hp⟩, rfl⟩

/-- A name that ends right before the brace and is found is the name of a property. -/
theorem namesProperty_of_run {v w : ReadState} {property : Option (List Char)} {value : List Char}
    (hs : s.skips = false) (h : s.rest = name ++ ['\x7d'])
    (hname : readPropertyName.run s = .ok ((property, value), t))
    (hclose : (accept '\x7d').run t = .ok (true, u)) (hu : u.rest = [])
    (hfound : (findProperty false property value).run v = .ok (p, w)) : NamesProperty name p := by
  obtain ⟨taken, c, rest, hsplit, htaken, hc⟩ :=
    exists_first_other (q := isPropertyPart) (by decide) name
  let m := s.past taken.length (c :: rest)
  have hsees : m.Sees c rest := sees_exact rfl hs
  have hexact {x : Char} {text : List Char} : s.skips = true → ∀ y ∈ x :: text, visible y = true :=
    fun hskips => absurd (hs.symm.trans hskips) Bool.false_ne_true
  rw [readPropertyName, run_bind_ok (run_takeWhile (h.trans hsplit) htaken hc hexact)] at hname
  obtain ⟨qualified, m', hattempt, hname⟩ := ok_of_run_bind hname
  cases qualified with
  | none =>
    cases hname
    rw [eq_of_attempt_none hattempt] at hclose
    obtain rfl := eq_of_closed hsplit hsees hclose hu
    obtain ⟨⟨-, hnamed⟩ | ⟨_, hsome, -⟩, -⟩ := found_of_findProperty hfound
    · exact .plain htaken hnamed
    · cases hsome
  | some given =>
    cases hname
    obtain ⟨⟨hnone, -⟩ | ⟨_, hproperty, hqualified⟩, -⟩ := found_of_findProperty hfound
    · cases hnone
    cases hproperty
    have hvalue := run_of_attempt_some hattempt
    rw [run_bind_ok (run_next hsees)] at hvalue
    simp only at hvalue
    split at hvalue
    · rename_i hseparator
      obtain ⟨inner, rfl, rfl⟩ := exists_inner hsplit (by rintro rfl; cases hseparator)
      obtain ⟨found, d, rest, hsplit', hvalued, hd⟩ :=
        exists_first_other (q := isValuePart) (by decide) inner
      have htake := run_takeWhile (s := m.past 1 (inner ++ ['\x7d'])) hsplit' hvalued hd hexact
      rw [run_bind_ok htake] at hvalue
      split at hvalue
      · cases hvalue
      · rename_i hgiven
        cases hvalue
        have hend : ((m.past 1 (inner ++ ['\x7d'])).past found.length (d :: rest)).Sees d rest :=
          sees_exact rfl hs
        obtain rfl := eq_of_closed hsplit' hend hclose hu
        refine .qualified (by simpa using hseparator) htaken hvalued ?_ hqualified
        rwa [List.isEmpty_iff] at hgiven
    · cases hvalue

/-- What the reader takes for a property with nothing left over is a reference. -/
theorem refers_of_run (hs : s.skips = false) (h : s.rest = '\x7b' :: (name ++ ['\x7d']))
    (hread : (readProperty true).run s = .ok (.property p positive, t)) (ht : t.rest = []) :
    Refers name p positive := by
  have hopen : s.Sees '\x7b' (name ++ ['\x7d']) := sees_exact h hs
  obtain ⟨braced, v, hbraced, hafter⟩ := ok_of_run_bind hread
  cases braced with
  | none =>
    -- An opening brace is none of the letters that are properties.
    rw [eq_of_attempt_none hbraced] at hafter
    obtain ⟨letter, w, hletter, hafter⟩ := ok_of_run_bind hafter
    cases letter with
    | none => cases hafter
    | some c =>
      have hnext := run_of_attempt_some hletter
      rw [run_bind_ok (run_next hopen)] at hnext
      cases hnext
  | some found =>
    obtain ⟨sign, property, value⟩ := found
    have hsteps := run_of_attempt_some hbraced
    rw [run_bind_ok (run_accept hopen)] at hsteps
    obtain ⟨negated, w, hnegated, hsteps⟩ := ok_of_run_bind hsteps
    obtain ⟨⟨property', value'⟩, x, hname, hsteps⟩ := ok_of_run_bind hsteps
    obtain ⟨closed, y, hclose, hsteps⟩ := ok_of_run_bind hsteps
    obtain ⟨p', z, hfound, hafter⟩ := ok_of_run_bind hafter
    cases hafter
    obtain ⟨-, rfl⟩ := found_of_findProperty hfound
    cases closed with
    | false => cases hsteps
    | true =>
      cases hsteps
      rcases caret_cases (s := s.past 1 (name ++ ['\x7d'])) hs rfl hnegated with
        ⟨rfl, rfl⟩ | ⟨rfl, more, rfl, rfl⟩
      · exact .having (namesProperty_of_run (s := s.past 1 (name ++ ['\x7d'])) hs rfl hname hclose
          ht hfound)
      · exact .lacking (namesProperty_of_run (s := (s.past 1 _).past 1 (more ++ ['\x7d'])) hs rfl
          hname hclose ht hfound)

end Spelling

/-- A text refers to a property exactly if it is spelled as a reference. -/
theorem reference?_eq_some_iff : reference? name = some (p, positive) ↔ Refers name p positive := by
  constructor
  · intro h
    rw [reference?] at h
    split at h
    · rename_i p' positive' t hread
      split at h
      · rename_i hend
        cases h
        exact refers_of_run rfl rfl hread (List.isEmpty_iff.mp hend)
      · cases h
    · cases h
  · intro h
    rw [reference?, h.run_readProperty rfl rfl]
    rfl

/-- A reference in a class. -/
theorem readsMember_reference (h : reference? name = some (p, positive)) :
    ReadsMember ('\\' :: 'p' :: '\x7b' :: (name ++ ['\x7d'])) (.property p positive) := by
  intro s c rest hs _ hrest
  have htext : s.rest = '\\' :: 'p' :: '\x7b' :: (name ++ '\x7d' :: c :: rest) := by
    rw [hrest]
    simp
  have hitem := run_readSetItem_escape htext ((reference?_eq_some_iff.mp h).run_readEscape hs rfl)
  rw [readSetMember, run_bind_ok hitem]
  simp only [Atom.toItem, List.length_cons, List.length_append, List.length_nil]
  rfl

end LineJoin.Pattern
