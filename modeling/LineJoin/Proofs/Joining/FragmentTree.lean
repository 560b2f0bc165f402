import LineJoin.Proofs.Joining.RuleTree
import LineJoin.Proofs.Pattern.PastedWhole

/-!
# The tree of a side with a fragment

A side with a fragment admits a unit or what the fragment matches. The fragment stands in
parentheses of its own at the end of the side, so the side is read as the branches of a unit and one
more branch, which is the fragment read alone with its groups counted on.
-/

namespace LineJoin

open Pattern Reader ReadState

namespace Units

section LineFeeds

theorem lineFeed_append {a b : String} (ha : '\n' ∉ a.toList) (hb : '\n' ∉ b.toList) :
    '\n' ∉ (a ++ b).toList := by
  rw [String.toList_append, List.mem_append, not_or]
  exact ⟨ha, hb⟩

theorem lineFeed_propertyText {name : String} (h : '\n' ∉ name.toList) :
    '\n' ∉ (propertyText name).toList := by
  rw [propertyText_toList]
  simpa using h

theorem lineFeed_codeText {n : Nat} (hn : n < 0x110000) : '\n' ∉ (codeText n).toList := by
  obtain ⟨letter, digits, htext, hletter, hdigits, -⟩ := codeText_toList hn
  rw [htext, List.mem_cons, List.mem_cons, not_or, not_or]
  refine ⟨by decide, ?_, fun hmem => absurd (hdigits _ hmem) (by decide)⟩
  rcases hletter with ⟨rfl, -⟩ | ⟨rfl, -⟩ <;> decide

theorem lineFeed_spanText {s : Span} (hs : s.low ≤ s.high ∧ s.high < 0x110000) :
    '\n' ∉ (spanText s).toList := by
  rw [spanText]
  split
  · exact lineFeed_codeText (by omega)
  · exact lineFeed_append (lineFeed_append (lineFeed_codeText (by omega)) (by decide))
      (lineFeed_codeText hs.2)

theorem lineFeed_baseText (x : Extensions) : '\n' ∉ (baseText x).toList := by
  have hnames : ∀ p ∈ properties x, '\n' ∉ (propertyText p.name).toList := by
    intro p hp
    refine lineFeed_propertyText ((show ∀ p ∈ baseProperties ++ hangulProperties,
      '\n' ∉ p.name.toList by decide) p ?_)
    rcases List.mem_append.mp hp with hp | hp
    · exact List.mem_append_left _ hp
    · split at hp
      · exact List.mem_append_right _ hp
      · cases hp
  have hspans : ∀ s ∈ spans x, '\n' ∉ (spanText s).toList := fun s hs =>
    lineFeed_spanText (spans_ordered x s hs)
  have hfind : (spans x).find? (fun s => decide (s.high < s.low)) = none := by
    rw [List.find?_eq_none]
    intro s hs
    have hle := (spans_ordered x s hs).1
    simp
    omega
  rw [baseText, classText, hfind]
  refine lineFeed_append (lineFeed_append (lineFeed_append (by decide) ?_) ?_) (by decide)
  · rw [String.toList_join]
    simpa using hnames
  · rw [String.toList_join]
    simpa using hspans

theorem lineFeed_emojiPieces : ∀ p ∈ emojiPieces, '\n' ∉ p.1.toList := by
  have hemoji : '\n' ∉ (propertyText "Emoji").toList := lineFeed_propertyText (by decide)
  have hpresentation : '\n' ∉ presentationSequence.toList := lineFeed_append hemoji (by decide)
  have hmodifier : '\n' ∉ modifierSequence.toList :=
    lineFeed_append (lineFeed_propertyText (by decide))
      (lineFeed_propertyText (by decide))
  have hregional : '\n' ∉ (propertyText "Regional_Indicator").toList :=
    lineFeed_propertyText (by decide)
  have hthree {a b c : String} (ha : '\n' ∉ a.toList) (hb : '\n' ∉ b.toList)
      (hc : '\n' ∉ c.toList) : '\n' ∉ ("(?:" ++ a ++ "|" ++ b ++ "|" ++ c ++ ")").toList := by
    simp [String.toList_append, ha, hb, hc]
  have helement : '\n' ∉ joinedElement.toList := hthree hemoji hpresentation hmodifier
  have hjoined : '\n' ∉ joinedSequence.toList := by
    rw [joinedSequence]
    refine lineFeed_append (lineFeed_append (lineFeed_append helement ?_) helement) (by decide)
    decide
  have htag : '\n' ∉ tagSequence.toList := by
    rw [tagSequence]
    refine lineFeed_append (hthree hemoji hmodifier hpresentation) ?_
    decide
  simp only [emojiPieces, List.forall_mem_cons, List.not_mem_nil, false_implies, implies_true,
    and_true]
  exact ⟨lineFeed_propertyText (by decide), hemoji, hpresentation, by decide +kernel,
    hmodifier, lineFeed_append hregional hregional, hjoined, htag⟩

/-- The text of a unit is one line. -/
theorem lineFeed_unitText (x : Extensions) : '\n' ∉ (unitText x).toList := by
  rw [unitText_toList, List.mem_append, not_or, moreText]
  refine ⟨lineFeed_baseText x, ?_⟩
  split
  · rw [List.mem_flatMap]
    rintro ⟨p, hp, hmem⟩
    rw [List.mem_cons] at hmem
    rcases hmem with hmem | hmem
    · cases hmem
    · exact lineFeed_emojiPieces p hp hmem
  · exact List.not_mem_nil

end LineFeeds

/-- The tree of a side with a fragment that is read as a given node. -/
def sideNode {ρ : Type} (x : Extensions) (i : Bool) (n : Node ρ) : Node ρ :=
  .branches ((branches x).map (· i) ++ [n])

/-- The text of a side with a fragment. -/
def sideText (x : Extensions) (fragment : List Char) : List Char :=
  '(' :: '?' :: ':' :: ((unitText x).toList ++ '|' :: (inParentheses fragment ++ [')']))

theorem sideText_toList (x : Extensions) {fragment : String} (h : fragment ≠ "") :
    (Rule.sidePattern (unitText x) (some fragment)).toList = sideText x fragment.toList := by
  rw [Rule.sidePattern]
  · simp [sideText, inParentheses, String.toList_append]
  · exact h

end Units

section Reading

variable [CharacterNames] [KnowsUnits] {x : Extensions} {fragment tail rest : List Char}
  {s v : ReadState} {b : Node Ref}
  {fuel : Nat} {e : Interrupt}

/-- The number of branches of a unit after the first one. -/
def moreCount (x : Extensions) : Nat :=
  ((if x.emoji then Units.emojiBranches else []) : List (Bool → Node Ref)).length

/-- The branches of a unit are read up to a branch that follows them. -/
theorem run_unit_branches (hlevel : s.Level)
    (hrest : s.rest = (Units.unitText x).toList ++ '|' :: tail)
    (hfuel : 2 * (Units.unitText x).toList.length ≤ fuel) :
    (∀ e, (readSequence fuel {}).run (s.past ((Units.unitText x).toList.length + 1) tail) =
        .error e → (readAlternatives (fuel + moreCount x + 2)).run s = .error e) ∧
      ∀ b v, (readSequence fuel {}).run (s.past ((Units.unitText x).toList.length + 1) tail) =
        .ok (b, v) → (∃ r, v.rest = ')' :: r) →
        (readAlternatives (fuel + moreCount x + 2)).run s =
          .ok (Units.sideNode x s.flags.ignoreCase b, v) := by
  obtain ⟨hmore, hbar, -⟩ := Units.readsBranches_moreText x
  have hunit := Units.unitText_toList x
  have hlength : (Units.unitText x).toList.length =
      (Units.baseText x).toList.length + (Units.moreText x).length := by
    rw [hunit, List.length_append]
  rw [hunit, List.append_assoc] at hrest
  have hends : Ends ('|' :: tail) := ⟨'|', tail, rfl, .inr rfl⟩
  have hsequence := Units.readsSequence_baseText x (fuel + 1 + moreCount x) {} s _ (by omega) hlevel
    (hbar.ends hends) hrest
  let t := s.past (Units.baseText x).toList.length (Units.moreText x ++ '|' :: tail)
  have hbranches := hmore (fuel + 1) t ('|' :: tail) (by omega) hlevel hends rfl
  let u := t.past (Units.moreText x).length ('|' :: tail)
  have hsees : u.Sees '|' tail := sees_visible rfl (by decide)
  have hpast : u.past 1 tail = s.past ((Units.unitText x).toList.length + 1) tail := by
    simp only [u, t, past_past, hlength]
  have hfuelEq : fuel + moreCount x + 2 = fuel + 1 + moreCount x + 1 := by omega
  rw [← hpast, hfuelEq, readAlternatives, run_bind_ok hsequence]
  constructor
  · intro e he
    have herror : (readMoreAlternatives (fuel + 1)).run u = .error e := by
      rw [readMoreAlternatives, run_bind_ok (run_accept hsees)]
      exact run_bind_error he
    rw [StateT.run_map, herror] at hbranches
    exact run_bind_error hbranches
  · rintro b v hb ⟨r, hr⟩
    have hok : (readMoreAlternatives (fuel + 1)).run u = .ok ([b], v) := by
      rw [readMoreAlternatives, run_bind_ok (run_accept hsees)]
      refine (run_bind_ok hb).trans ?_
      rw [run_bind_ok (run_readMoreAlternatives_close hr fuel)]
      rfl
    rw [StateT.run_map, hok] at hbranches
    exact (run_bind_ok hbranches).trans rfl

omit [KnowsUnits] in
/-- Alternatives in parentheses that are not counted, up to a closing parenthesis. -/
theorem run_group_alternatives (fuel : Nat) {inner : List Char} (hlevel : s.Level)
    (hrest : s.rest = '(' :: '?' :: ':' :: inner) :
    (∀ e, (readAlternatives fuel).run (s.past 3 inner) = .error e →
        (readAlternatives (fuel + 5)).run s = .error e) ∧
      ∀ b v r, (readAlternatives fuel).run (s.past 3 inner) = .ok (b, v) →
        v.rest = ')' :: ')' :: r →
        (readAlternatives (fuel + 5)).run s = .ok (b, { v with
          rest := ')' :: r, position := v.position + 1, flags := s.flags,
          skips := s.flags.verbose }) := by
  have hsees : s.Sees '(' ('?' :: ':' :: inner) := sees_visible hrest (by decide)
  have hparenthesis := run_readParenthesis_colon (fuel + 1)
    (s := s.past 1 ('?' :: ':' :: inner)) rfl hlevel
  constructor
  · intro e he
    have hbody : (readBody (fuel + 1) s.flags).run (s.past 3 inner) = .error e := by
      rw [readBody]
      exact run_bind_error he
    rw [readAlternatives]
    refine run_bind_error ?_
    rw [readSequence, run_bind_ok (run_get s), run_bind_ok (run_next hsees)]
    exact run_bind_error (hparenthesis.trans (run_bind_error hbody))
  · intro b v r hread hr
    have hclose : v.Sees ')' (')' :: r) := sees_visible hr (by decide)
    have hbody : (readBody (fuel + 1) s.flags).run (s.past 3 inner) = .ok (b, { v with
        rest := ')' :: r, position := v.position + 1, flags := s.flags,
        skips := s.flags.verbose }) := by
      rw [readBody, run_bind_ok hread, run_bind_ok (run_expect hclose)]
      rfl
    have hsequence := (run_readSequence_parenthesis hrest
      (hparenthesis.trans ((run_bind_ok hbody).trans rfl)) {}).trans
        (run_readSequence_end (ends_close r) _ _)
    rw [readAlternatives, run_bind_ok hsequence, run_bind_ok (run_readMoreAlternatives_close rfl _)]
    rfl

/-- The state before the fragment of a side. -/
def atFragment (x : Extensions) (fragment rest : List Char) (s : ReadState) : ReadState :=
  s.past ((Units.unitText x).toList.length + 4) (inParentheses fragment ++ ')' :: ')' :: rest)

/-- The place of the fragment of a side. -/
def fragmentPlace (x : Extensions) (fragment rest : List Char) (s : ReadState) : Place :=
  (atFragment x fragment rest s).inside (')' :: ')' :: rest)

/-- The state after a side with a fragment. -/
def afterSide (x : Extensions) (fragment rest : List Char) (s t : ReadState) : ReadState :=
  let v := (atFragment x fragment rest s).after (')' :: ')' :: rest) t
  { v with rest := ')' :: rest, position := v.position + 1 }

/-- A side is read as the sequence is that begins with its fragment. -/
theorem run_side_sequence (hlevel : s.Level)
    (hrest : s.rest = Units.sideText x fragment ++ ')' :: rest)
    (hfuel : 6 * (Units.sideText x fragment).length ≤ fuel) :
    ∃ k, wholeFuel fragment ≤ k ∧
      (∀ e, (readSequence (k + 4) {}).run (atFragment x fragment rest s) = .error e →
        (readAlternatives fuel).run s = .error e) ∧
      ∀ b v, (readSequence (k + 4) {}).run (atFragment x fragment rest s) = .ok (b, v) →
        v.rest = ')' :: ')' :: rest →
        (readAlternatives fuel).run s = .ok (Units.sideNode x s.flags.ignoreCase b, { v with
          rest := ')' :: rest, position := v.position + 1, flags := s.flags,
          skips := s.flags.verbose }) := by
  obtain ⟨-, -, hcount⟩ := Units.readsBranches_moreText x
  have hunit : (Units.moreText x).length ≤ (Units.unitText x).toList.length := by
    rw [Units.unitText_toList, List.length_append]
    exact Nat.le_add_left _ _
  have hcount : moreCount x ≤ (Units.unitText x).toList.length := Nat.le_trans hcount hunit
  have hside : (Units.sideText x fragment).length =
      (Units.unitText x).toList.length + fragment.length + 9 := by
    simp only [Units.sideText, inParentheses, List.length_cons, List.length_append,
      List.length_nil]
    omega
  obtain ⟨k, rfl⟩ : ∃ k, fuel = k + 4 + moreCount x + 2 + 5 :=
    ⟨fuel - moreCount x - 11, by omega⟩
  have hk : wholeFuel fragment ≤ k := by
    rw [wholeFuel]
    omega
  let tail := inParentheses fragment ++ ')' :: ')' :: rest
  let inner := (Units.unitText x).toList ++ '|' :: tail
  have hrest' : s.rest = '(' :: '?' :: ':' :: inner := by
    rw [hrest]
    simp [Units.sideText, inner, tail]
  have hpast : (s.past 3 inner).past ((Units.unitText x).toList.length + 1) tail =
      atFragment x fragment rest s := by
    rw [past_past, Nat.add_comm 3]
    rfl
  obtain ⟨hbranchError, hbranch⟩ := run_unit_branches (x := x)
    (s := s.past 3 inner) hlevel rfl
    (show 2 * (Units.unitText x).toList.length ≤ k + 4 by omega)
  obtain ⟨hgroupError, hgroup⟩ := run_group_alternatives (k + 4 + moreCount x + 2)
    hlevel hrest'
  rw [hpast] at hbranchError hbranch
  refine ⟨k, hk, fun e he => hgroupError e (hbranchError e he), fun b v hread hv => ?_⟩
  exact hgroup _ _ rest (hbranch b v hread ⟨_, hv⟩) hv

/-- A side starts again as its fragment does. A fragment that ends in a comment takes the rest of the
line with it; any other one is the last branch of the side. -/
theorem run_side (hs : s.Fresh) (hline : '\n' ∉ rest) (hnumbers : refersByNumber fragment = false)
    (hrest : s.rest = Units.sideText x fragment ++ ')' :: rest)
    (hfuel : 6 * (Units.sideText x fragment).length ≤ fuel) :
    (∀ more, (readAlternatives (wholeFuel fragment)).run (.start fragment s.flags) =
        .error (.restart more) →
        (readAlternatives fuel).run s = .error (.restart more)) ∧
      ∀ n t, (readAlternatives (wholeFuel fragment)).run (.start fragment s.flags) = .ok (n, t) →
        (ahead t).2 = [] →
        (t.Commented → ∃ e, (readAlternatives fuel).run s = .error (.fault e)) ∧
          (¬t.Commented →
            (readAlternatives fuel).run s = .ok (Units.sideNode x s.flags.ignoreCase
                ((fragmentPlace x fragment rest s).node n), afterSide x fragment rest s t) ∧
              n.Named ∧ (ReadState.start fragment s.flags).Onward t) := by
  obtain ⟨k, hk, hsideError, hside⟩ := run_side_sequence hs.level hrest hfuel
  have hfresh : (atFragment x fragment rest s).Fresh :=
    ⟨hs.level, hs.globalFlags, hs.names, hs.outer, hs.opened⟩
  have hline' : '\n' ∉ ')' :: ')' :: rest := by
    rw [List.mem_cons, List.mem_cons, not_or, not_or]
    exact ⟨by decide, by decide, hline⟩
  have hat : (atFragment x fragment rest s).rest =
      '(' :: '?' :: ':' :: (fragment ++ ')' :: ')' :: ')' :: rest) := by
    simp [atFragment, past, inParentheses]
  constructor
  · intro more h
    exact hsideError _ (run_inside_restart hfresh hline' hnumbers hat hk h {})
  · intro n t h hend
    obtain ⟨hfault, hclosed⟩ := run_inside hfresh hline' hnumbers hat hk h hend {}
    constructor
    · intro hc
      obtain ⟨e, he⟩ := hfault hc
      exact ⟨e, hsideError _ he⟩
    · intro hc
      obtain ⟨hread, hnamed, ht⟩ := hclosed hc
      have hends := run_readSequence_end
        (s := (atFragment x fragment rest s).after (')' :: ')' :: rest) t)
        (ends_close (')' :: rest)) (k + 3)
        (Sequence.push {} ((fragmentPlace x fragment rest s).node n))
      exact ⟨(hside _ _ (hread.trans hends) rfl).trans rfl, hnamed, ht⟩

end Reading

end LineJoin
