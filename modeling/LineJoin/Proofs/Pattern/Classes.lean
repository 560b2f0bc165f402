import LineJoin.Proofs.Pattern.Steps

/-!
# Reading escapes and bracket classes

The texts of properties, code points and bracket classes are read in the same way in front of any
rest. `NamesProperty` says under which texts in braces a property is found. A member of a class is
described by `ReadsMember`, and `readsMembers_flatMap` puts the members of a class together.
-/

namespace LineJoin.Pattern

open Reader ReadState

variable {s : ReadState} {rest : List Char}

theorem run_readPropertyName_plain {name : List Char} (h : s.rest = name ++ '\x7d' :: rest)
    (parts : ∀ c ∈ name, isPropertyPart c = true)
    (hvisible : s.skips = true → ∀ c ∈ name, visible c = true) :
    readPropertyName.run s = .ok ((none, name), s.past name.length ('\x7d' :: rest)) := by
  have hend : (s.past name.length ('\x7d' :: rest)).Sees '\x7d' rest := sees_visible rfl (by decide)
  rw [readPropertyName, run_bind_ok (run_takeWhile h parts (by decide) fun hs =>
    List.forall_mem_cons.mpr ⟨by decide, hvisible hs⟩)]
  rw [run_bind_ok (run_attempt_none (t := (s.past name.length ('\x7d' :: rest)).past 1 rest)
    ((run_bind_ok (run_next hend)).trans rfl))]
  rfl

theorem run_readPropertyName_qualified {property value : List Char} {separator : Char}
    (separates : separator = ':' ∨ separator = '=')
    (h : s.rest = (property ++ separator :: value) ++ '\x7d' :: rest)
    (parts : ∀ c ∈ property, isPropertyPart c = true)
    (valueParts : ∀ c ∈ value, isValuePart c = true) (given : strip value ≠ [])
    (hvisible : s.skips = true → ∀ c ∈ property ++ separator :: value, visible c = true) :
    readPropertyName.run s = .ok ((some property, strip value),
      s.past (property ++ separator :: value).length ('\x7d' :: rest)) := by
  have h' : s.rest = property ++ separator :: (value ++ '\x7d' :: rest) := by
    rw [h, List.append_assoc, List.cons_append]
  have hseparator : visible separator = true ∧ isPropertyPart separator = false := by
    rcases separates with rfl | rfl <;> decide
  have hvalued : (decide (separator = ':') || decide (separator = '=')) = true := by
    simpa using separates
  let t := s.past property.length (separator :: (value ++ '\x7d' :: rest))
  have hsees : t.Sees separator (value ++ '\x7d' :: rest) := sees_visible rfl hseparator.1
  have hvalue := run_takeWhile (s := t.past 1 (value ++ '\x7d' :: rest)) rfl valueParts
    (c := '\x7d') (by decide) fun hs => List.forall_mem_cons.mpr
      ⟨by decide, fun c hc => hvisible hs c (by simp [hc])⟩
  have hne : (strip value).isEmpty = false := by
    rw [Bool.eq_false_iff, ne_eq, List.isEmpty_iff]
    exact given
  rw [readPropertyName, run_bind_ok (run_takeWhile h' parts hseparator.2 fun hs =>
    List.forall_mem_cons.mpr ⟨hseparator.1, fun c hc => hvisible hs c (by simp [hc])⟩)]
  refine (run_bind_ok (run_attempt_some (a := strip value)
    (t := s.past (property ++ separator :: value).length ('\x7d' :: rest)) ?_)).trans rfl
  rw [run_bind_ok (run_next hsees)]
  simp only [hvalued, if_true]
  refine (run_bind_ok hvalue).trans ?_
  simp only [hne, Bool.false_eq_true, if_false]
  rw [List.length_append, List.length_cons, run_pure]
  simp only [t, past_past, Nat.add_assoc, Nat.add_comm 1]

theorem hexValue?_visible {c : Char} (h : (Span.hexValue? c).isSome = true) : visible c = true := by
  have hrange : 48 ≤ c.toNat ∧ c.toNat ≤ 57 ∨ 65 ≤ c.toNat ∧ c.toNat ≤ 70 ∨
      97 ≤ c.toNat ∧ c.toNat ≤ 102 := by
    simp only [Span.hexValue?, Bool.and_eq_true, decide_eq_true_eq, Char.le_def,
      UInt32.le_iff_toNat_le] at h
    change 48 ≤ c.val.toNat ∧ c.val.toNat ≤ 57 ∨ 65 ≤ c.val.toNat ∧ c.val.toNat ≤ 70 ∨
      97 ≤ c.val.toNat ∧ c.val.toNat ≤ 102
    split at h
    · rename_i hc
      exact .inl hc
    · split at h
      · rename_i hc
        exact .inr (.inr hc)
      · split at h
        · rename_i hc
          exact .inr (.inl hc)
        · cases h
  have hblank : isBlank c = false := by
    rw [Bool.eq_false_iff, ne_eq, isBlank, Span.covers_iff]
    rintro ⟨z, hz, hlow, hhigh⟩
    simp only [blankTable, List.mem_cons, List.not_mem_nil, or_false] at hz
    rcases hz with rfl | rfl | rfl | rfl | rfl | rfl | rfl | rfl | rfl | rfl <;>
      simp only at hlow hhigh <;> omega
  have hhash : c ≠ '#' := by
    rintro rfl
    revert hrange
    decide
  simp [visible, hblank, hhash]

theorem run_readHexDigits {digits : List Char}
    (hdigits : ∀ c ∈ digits, (Span.hexValue? c).isSome = true) (h : s.rest = digits ++ rest) :
    (readHexDigits digits.length).run s = .ok ((true, digits), s.past digits.length rest) := by
  induction digits generalizing s with
  | nil =>
    obtain rfl : s.rest = rest := h
    rfl
  | cons c digits ih =>
    obtain ⟨hc, hdigits⟩ := List.forall_mem_cons.mp hdigits
    have hsees : s.Sees c (digits ++ rest) := sees_visible h (hexValue?_visible hc)
    rw [List.length_cons, readHexDigits, run_bind_ok (run_next hsees)]
    simp only [hc, if_true]
    rw [run_bind_ok (ih hdigits (s := s.past 1 (digits ++ rest)) rfl), past_past, Nat.add_comm 1]
    rfl

theorem run_readHexEscape {digits : List Char}
    (hdigits : ∀ c ∈ digits, (Span.hexValue? c).isSome = true)
    (hvalue : Span.hexNumber digits < 0x110000) (h : s.rest = digits ++ rest) (letter : Char) :
    (readHexEscape letter digits.length).run s =
      .ok (.code (Span.hexNumber digits), s.past digits.length rest) := by
  rw [readHexEscape, run_bind_ok (run_position s), run_bind_ok (run_readHexDigits hdigits h)]
  simp only [Bool.not_true, Bool.false_eq_true, if_false, if_pos hvalue]
  rfl

theorem run_readNamedClass_none {c : Char} (h : s.Sees c rest) (hc : c ≠ '[') :
    readNamedClass.run s = .ok (none, s) := by
  obtain ⟨colon, t, ht⟩ : ∃ colon t, (accept ':').run s = .ok (colon, t) := by
    by_cases hcolon : c = ':'
    · exact ⟨_, _, run_accept (hcolon ▸ h)⟩
    · exact ⟨_, _, run_accept_other h hcolon⟩
  refine run_attempt_none (t := t) ?_
  rw [run_bind_ok (run_accept_other h hc), run_bind_ok ht]
  rfl

variable [CharacterNames]

/-- The texts in braces that stand for a property. -/
inductive NamesProperty : List Char → Property → Prop where
  | plain {name : List Char} {p : Property} (parts : ∀ c ∈ name, isPropertyPart c = true)
      (found : CharacterNames.property? name = some p) : NamesProperty name p
  | qualified {property value : List Char} {separator : Char} {p : Property}
      (separates : separator = ':' ∨ separator = '=')
      (parts : ∀ c ∈ property, isPropertyPart c = true)
      (valueParts : ∀ c ∈ value, isValuePart c = true) (given : strip value ≠ [])
      (found : CharacterNames.qualified? property (strip value) = .found p) :
      NamesProperty (property ++ separator :: value) p

namespace NamesProperty

variable {name : List Char} {p : Property}

/-- What is read as a name is found as the property. -/
theorem run_readPropertyName (hp : NamesProperty name p) (h : s.rest = name ++ '\x7d' :: rest)
    (hvisible : s.skips = true → ∀ c ∈ name, visible c = true) :
    ∃ property value,
      readPropertyName.run s = .ok ((property, value), s.past name.length ('\x7d' :: rest)) ∧
        ∀ t, (findProperty false property value).run t = .ok (p, t) := by
  cases hp with
  | plain parts found =>
    refine ⟨_, _, run_readPropertyName_plain h parts hvisible, fun t => ?_⟩
    simp only [findProperty, found]
    rfl
  | qualified separates parts valueParts given found =>
    refine ⟨_, _, run_readPropertyName_qualified separates h parts valueParts given hvisible,
      fun t => ?_⟩
    simp only [findProperty, found]
    rfl

/-- A name has no sign of its own. -/
theorem head_ne (hp : NamesProperty name p) {c : Char} {text : List Char}
    (h : name ++ '\x7d' :: rest = c :: text) : c ≠ '^' := by
  have hpart {parts more : List Char} {d : Char} (hparts : ∀ c ∈ parts, isPropertyPart c = true)
      (hd : d ≠ '^') (h : parts ++ d :: more = c :: text) : c ≠ '^' := by
    cases parts with
    | nil => exact (List.cons.inj h).1 ▸ hd
    | cons x parts =>
      obtain ⟨rfl, -⟩ := List.cons.inj h
      rintro rfl
      cases hparts '^' List.mem_cons_self
  cases hp with
  | plain parts => exact hpart parts (by decide) h
  | @qualified property value separator _ separates parts =>
    rw [List.append_assoc, List.cons_append] at h
    refine hpart parts ?_ h
    rcases separates with rfl | rfl <;> decide

end NamesProperty

/-- A property in braces, with whatever sign is read before its name. -/
theorem run_readProperty_signed {name inner : List Char} {p : Property} {negated : Bool} {k : Nat}
    (hp : NamesProperty name p) (hopen : s.Sees '\x7b' inner)
    (hsign : (accept '^').run (s.past 1 inner) = .ok (negated, s.past k (name ++ '\x7d' :: rest)))
    (hvisible : s.skips = true → ∀ c ∈ name, visible c = true) (positive : Bool) :
    (readProperty positive).run s =
      .ok (.property p (positive != negated), s.past (k + name.length + 1) rest) := by
  let t := s.past k (name ++ '\x7d' :: rest)
  have hclose : (t.past name.length ('\x7d' :: rest)).Sees '\x7d' rest :=
    sees_visible rfl (by decide)
  obtain ⟨property, value, hname, hfound⟩ := hp.run_readPropertyName (s := t) rfl hvisible
  have hbraced : (readBraced positive).run s =
      .ok (some (positive != negated, property, value), s.past (k + name.length + 1) rest) := by
    refine run_attempt_some ?_
    rw [run_bind_ok (run_accept hopen)]
    refine (run_bind_ok hsign).trans ?_
    rw [run_bind_ok hname]
    refine (run_bind_ok (run_accept hclose)).trans ?_
    simp only [t, past_past, if_true, run_pure]
  rw [readProperty, run_bind_ok hbraced]
  exact (run_bind_ok (hfound _)).trans rfl

theorem run_readProperty {name : List Char} {p : Property} (hp : NamesProperty name p)
    (h : s.rest = '\x7b' :: (name ++ '\x7d' :: rest))
    (hvisible : s.skips = true → ∀ c ∈ name, visible c = true) (positive : Bool) :
    (readProperty positive).run s = .ok (.property p positive, s.past (name.length + 2) rest) := by
  have hopen : s.Sees '\x7b' (name ++ '\x7d' :: rest) := sees_visible h (by decide)
  have hsign : (accept '^').run (s.past 1 (name ++ '\x7d' :: rest)) =
      .ok (false, s.past 1 (name ++ '\x7d' :: rest)) := by
    obtain ⟨c, text, hcr⟩ := List.exists_cons_of_ne_nil
      (show name ++ '\x7d' :: rest ≠ [] by simp)
    refine run_accept_other ⟨hcr, fun hs => ?_⟩ (hp.head_ne hcr)
    cases name with
    | nil =>
      obtain ⟨rfl, -⟩ := List.cons.inj hcr
      decide
    | cons x name =>
      obtain ⟨rfl, -⟩ := List.cons.inj hcr
      exact hvisible hs _ List.mem_cons_self
  rw [run_readProperty_signed hp hopen hsign hvisible, Bool.bne_false,
    show 1 + name.length + 1 = name.length + 2 by omega]

/-- A property as it stands in a pattern, after the backslash. -/
theorem run_readEscape_property {name : List Char} {p : Property} (hp : NamesProperty name p)
    (h : s.rest = 'p' :: '\x7b' :: (name ++ '\x7d' :: rest))
    (hvisible : s.skips = true → ∀ c ∈ name, visible c = true) (inSet : Bool) :
    (readEscape inSet).run s = .ok (.property p true, s.past (name.length + 3) rest) := by
  rw [readEscape, run_bind_ok (run_nextExact h)]
  have hread := run_readProperty hp (s := s.past 1 ('\x7b' :: (name ++ '\x7d' :: rest))) rfl
    hvisible true
  rw [past_past, Nat.add_comm 1] at hread
  cases inSet
  · exact hread
  · exact hread

/-- The digits of a code point after the letter that tells their number. -/
theorem run_readEscape_digits {letter : Char} {digits : List Char}
    (hlength : hexEscapeLength? letter = some digits.length)
    (hdigits : ∀ c ∈ digits, (Span.hexValue? c).isSome = true)
    (hvalue : Span.hexNumber digits < 0x110000) (h : s.rest = letter :: (digits ++ rest))
    (inSet : Bool) :
    (readEscape inSet).run s =
      .ok (.code (Span.hexNumber digits), s.past (digits.length + 1) rest) := by
  have hread := run_readHexEscape hdigits hvalue (s := s.past 1 (digits ++ rest)) rfl letter
  rw [past_past, Nat.add_comm 1] at hread
  rw [readEscape, run_bind_ok (run_nextExact h)]
  simp only [hlength]
  exact hread

theorem run_readEscape_hex {letter : Char} {digits : List Char}
    (hletter : letter = 'u' ∧ digits.length = 4 ∨ letter = 'U' ∧ digits.length = 8)
    (hdigits : ∀ c ∈ digits, (Span.hexValue? c).isSome = true)
    (hvalue : Span.hexNumber digits < 0x110000) (h : s.rest = letter :: (digits ++ rest))
    (inSet : Bool) :
    (readEscape inSet).run s =
      .ok (.code (Span.hexNumber digits), s.past (digits.length + 1) rest) := by
  refine run_readEscape_digits ?_ hdigits hvalue h inSet
  rcases hletter with ⟨rfl, hlen⟩ | ⟨rfl, hlen⟩ <;> rw [hlen] <;> rfl

theorem run_readEscape_carriage (h : s.rest = 'r' :: rest) (inSet : Bool) :
    (readEscape inSet).run s = .ok (.code 13, s.past 1 rest) := by
  rw [readEscape, run_bind_ok (run_nextExact h)]
  cases inSet <;> rfl

theorem run_readEscape_feed (h : s.rest = 'n' :: rest) (inSet : Bool) :
    (readEscape inSet).run s = .ok (.code 10, s.past 1 rest) := by
  rw [readEscape, run_bind_ok (run_nextExact h)]
  cases inSet <;> rfl

/-- An escape in a class. -/
theorem run_readSetItem_escape {text : List Char} {atom : Atom} {n : Nat}
    (h : s.rest = '\\' :: text)
    (hread : (readEscape true).run (s.past 1 text) = .ok (atom, (s.past 1 text).past n rest)) :
    readSetItem.run s = .ok (atom.toItem, s.past (n + 1) rest) := by
  have hback : s.Sees '\\' text := sees_visible h (by decide)
  rw [readSetItem, run_bind_ok (run_accept hback)]
  refine (run_bind_ok hread).trans ?_
  rw [past_past, Nat.add_comm 1]
  rfl

/-- A character of a class that stands for itself. -/
theorem run_readSetItem_literal {c : Char} (h : s.rest = c :: rest) (hs : s.skips = false)
    (hback : c ≠ '\\') (hopen : c ≠ '[') :
    readSetItem.run s = .ok (.code c.toNat, s.past 1 rest) := by
  have hsees : s.Sees c rest := sees_exact h hs
  rw [readSetItem, run_bind_ok (run_accept_other hsees hback)]
  refine (run_bind_ok (run_readNamedClass_none hsees hopen)).trans ?_
  exact (run_bind_ok (run_next hsees)).trans rfl

/-- A member of a class in front of anything but a hyphen. -/
def ReadsMember (text : List Char) (item : SetItem) : Prop :=
  ∀ (s : ReadState) (c : Char) (rest : List Char), s.skips = false → c ≠ '-' →
    s.rest = text ++ c :: rest → readSetMember.run s = .ok ([item], s.past text.length (c :: rest))

/-- The members of a class up to the closing bracket. -/
def ReadsMembers (text : List Char) (items : List SetItem) : Prop :=
  ∀ (fuel : Nat) (s : ReadState) (rest : List Char), items.length ≤ fuel → s.skips = false →
    s.rest = text ++ ']' :: rest →
      (readSetMembers fuel).run s = .ok (items, s.past text.length (']' :: rest))

/-- One character of a class, in front of anything. -/
def ReadsCode (text : List Char) (n : Nat) : Prop :=
  ∀ (s : ReadState) (rest : List Char), s.skips = false → s.rest = text ++ rest →
    readSetItem.run s = .ok (.code n, s.past text.length rest)

theorem readsCode_hex {letter : Char} {digits : List Char}
    (hletter : letter = 'u' ∧ digits.length = 4 ∨ letter = 'U' ∧ digits.length = 8)
    (hdigits : ∀ c ∈ digits, (Span.hexValue? c).isSome = true)
    (hvalue : Span.hexNumber digits < 0x110000) :
    ReadsCode ('\\' :: letter :: digits) (Span.hexNumber digits) := fun _ _ _ h =>
  run_readSetItem_escape h (run_readEscape_hex hletter hdigits hvalue rfl true)

theorem readsCode_literal {c : Char} (hback : c ≠ '\\') (hopen : c ≠ '[') :
    ReadsCode [c] c.toNat := fun _ _ hs h => run_readSetItem_literal h hs hback hopen

theorem readsMember_code {text : List Char} {n : Nat} (h : ReadsCode text n) :
    ReadsMember text (.code n) := by
  intro s c rest hs hc hrest
  have hsees : (s.past text.length (c :: rest)).Sees c rest := sees_exact rfl hs
  rw [readSetMember, run_bind_ok (h s _ hs hrest)]
  exact (run_bind_ok (run_accept_other hsees hc)).trans rfl

theorem readsMember_span {first : List Char} {low : Nat} (hfirst : ReadsCode first low) {c : Char}
    {second : List Char} {high : Nat} (hsecond : ReadsCode (c :: second) high) (hc : c ≠ ']')
    (hlt : low < high) : ReadsMember (first ++ '-' :: c :: second) (.span low high) := by
  intro s d rest hs _ hrest
  have hrest' : s.rest = first ++ '-' :: c :: (second ++ d :: rest) := by
    rw [hrest]
    simp
  let t := s.past first.length ('-' :: c :: (second ++ d :: rest))
  let u := t.past 1 (c :: (second ++ d :: rest))
  have hhyphen : t.Sees '-' (c :: (second ++ d :: rest)) := sees_exact rfl hs
  have hsees : u.Sees c (second ++ d :: rest) := sees_exact rfl hs
  rw [readSetMember, run_bind_ok (hfirst s _ hs hrest')]
  refine (run_bind_ok (run_accept hhyphen)).trans ?_
  refine (run_bind_ok (run_peek (run_accept_other hsees hc))).trans ?_
  simp only [Bool.false_eq_true, if_false]
  refine (run_bind_ok (hsecond u (d :: rest) hs rfl)).trans ?_
  simp only [if_neg (show ¬ high < low by omega), if_neg (show ¬ low = high by omega), t, u,
    past_past, run_pure, List.length_append, List.length_cons]
  rw [Nat.add_assoc, Nat.add_comm 1]

theorem readsMembers_single {text : List Char} {item : SetItem} (h : ReadsMember text item) :
    ReadsMembers text [item] := by
  intro fuel s rest hfuel hs hrest
  obtain ⟨fuel, rfl⟩ : ∃ f, fuel = f + 1 := ⟨fuel - 1, by simp at hfuel; omega⟩
  have hclose : (s.past text.length (']' :: rest)).Sees ']' rest := sees_visible rfl (by decide)
  rw [readSetMembers, run_bind_ok (h s ']' rest hs (by decide) hrest),
    run_bind_ok (run_peek (run_accept hclose))]
  rfl

theorem readsMembers_cons {text : List Char} {item : SetItem} (h : ReadsMember text item)
    {more : List Char} {items : List SetItem} {c : Char} (hmore : ReadsMembers (c :: more) items)
    (hclose : c ≠ ']') (hhyphen : c ≠ '-') :
    ReadsMembers (text ++ c :: more) (item :: items) := by
  intro fuel s rest hfuel hs hrest
  obtain ⟨fuel, rfl⟩ : ∃ f, fuel = f + 1 := ⟨fuel - 1, by simp at hfuel; omega⟩
  have hrest' : s.rest = text ++ c :: (more ++ ']' :: rest) := by
    rw [hrest, List.append_assoc, List.cons_append]
  let t := s.past text.length (c :: (more ++ ']' :: rest))
  have hsees : t.Sees c (more ++ ']' :: rest) := sees_exact rfl hs
  have hfuel' : items.length ≤ fuel := Nat.le_of_succ_le_succ hfuel
  rw [readSetMembers, run_bind_ok (h s c _ hs hhyphen hrest')]
  refine (run_bind_ok (run_peek (run_accept_other hsees hclose))).trans ?_
  simp only [Bool.false_eq_true, if_false]
  refine (run_bind_ok (hmore fuel t rest hfuel' hs rfl)).trans ?_
  simp only [t, past_past, List.length_append]
  rfl

/-- A bracket class after its opening bracket. -/
theorem run_readSet {c : Char} {text : List Char} {items : List SetItem}
    (h : ReadsMembers (c :: text) items) (hc : c ≠ '^') (hcount : items.length ≤ text.length + 1)
    (hrest : s.rest = c :: (text ++ ']' :: rest)) :
    readSet.run s = .ok (.set true items, s.past (text.length + 2) rest) := by
  let s' : ReadState := { s with skips := false }
  have hsees : s'.Sees c (text ++ ']' :: rest) := sees_exact hrest rfl
  have hfuel : items.length ≤ s.rest.length + 1 := by
    rw [hrest, List.length_cons, List.length_append]
    omega
  have hclose : (s'.past (c :: text).length (']' :: rest)).Sees ']' rest :=
    sees_visible rfl (by decide)
  rw [readSet, run_bind_ok (run_get s), run_bind_ok (run_set s s'),
    run_bind_ok (run_accept_other hsees hc), run_bind_ok (h _ s' rest hfuel rfl hrest),
    run_bind_ok (run_expect hclose)]
  rfl

end LineJoin.Pattern
