import LineJoin.Proofs.Pattern.Movement
import LineJoin.Proofs.Pattern.PastedReading
import LineJoin.Proofs.Results
import Mathlib.Data.List.Count

/-!
# Groups counted on

`Node.countOn` counts the groups of a node on from the ones that come before them. The node then
matches in the same ways: the cursors are the same and what its groups take is the same, under their
new numbers. The node that is read at a place stands, when its references are resolved, for the node
read alone with its groups counted on.
-/

namespace LineJoin.Pattern

/-- A group number counted on. There is no group zero. -/
def countedOn (k n : Nat) : Nat := if n = 0 then 0 else n + k

namespace Node

def countOn (k : Nat) : Node Nat → Node Nat
  | empty => empty
  | never => never
  | char i t => char i t
  | anchor a => anchor a
  | seq a b => seq (a.countOn k) (b.countOn k)
  | alt a b => alt (a.countOn k) (b.countOn k)
  | group n body => group (n + k) (body.countOn k)
  | atomic body => atomic (body.countOn k)
  | look behind positive body => look behind positive (body.countOn k)
  | repeated greedy least most body => repeated greedy least most (body.countOn k)
  | backref i n => backref i (countedOn k n)
  | ifGroup n yes no => ifGroup (countedOn k n) (yes.countOn k) (no.countOn k)
  | call n => call (countedOn k n)
  | keep => keep

/-- No group has the number zero, and none is called by it. -/
def Counted : Node Nat → Prop
  | group n body => n ≠ 0 ∧ body.Counted
  | call n => n ≠ 0
  | seq a b | alt a b => a.Counted ∧ b.Counted
  | atomic body | look _ _ body | repeated _ _ _ body => body.Counted
  | ifGroup _ yes no => yes.Counted ∧ no.Counted
  | empty | never | char _ _ | anchor _ | backref _ _ | keep => True

theorem Counted.groupBody? {n : Node Nat} (h : n.Counted) {g : Nat} {body : Node Nat}
    (hbody : n.groupBody? g = some body) : body.Counted := by
  induction n with
  | group m inner ih =>
    rw [Node.groupBody?] at hbody
    split at hbody
    · exact Option.some.inj hbody ▸ h.2
    · exact ih h.2 hbody
  | seq a b iha ihb =>
    rcases Option.or_eq_some_iff.mp hbody with hbody | ⟨-, hbody⟩
    · exact iha h.1 hbody
    · exact ihb h.2 hbody
  | alt a b iha ihb =>
    rcases Option.or_eq_some_iff.mp hbody with hbody | ⟨-, hbody⟩
    · exact iha h.1 hbody
    · exact ihb h.2 hbody
  | ifGroup n yes no ihy ihn =>
    rcases Option.or_eq_some_iff.mp hbody with hbody | ⟨-, hbody⟩
    · exact ihy h.1 hbody
    · exact ihn h.2 hbody
  | atomic body ih => exact ih h hbody
  | look behind positive body ih => exact ih h hbody
  | repeated greedy least most body ih => exact ih h hbody
  | _ => cases hbody

theorem Counted.callee {n : Node Nat} (h : n.Counted) (g : Nat) : (n.callee g).Counted := by
  rw [Node.callee]
  split
  · exact h
  · cases hbody : n.groupBody? g with
    | none => exact trivial
    | some body => exact h.groupBody? hbody

/-- With its groups counted on a node has no group with a number up to there. -/
theorem groupBody?_countOn (k : Nat) (n : Node Nat) (g : Nat) :
    (n.countOn k).groupBody? (g + k) = (n.groupBody? g).map (countOn k) := by
  induction n with
  | group m body ih =>
    rw [countOn, groupBody?, groupBody?, ih]
    by_cases h : m = g
    · rw [if_pos h, if_pos (by omega)]
      rfl
    · rw [if_neg h, if_neg (by omega)]
  | seq a b iha ihb => rw [countOn, groupBody?, groupBody?, iha, ihb, Option.map_or]
  | alt a b iha ihb => rw [countOn, groupBody?, groupBody?, iha, ihb, Option.map_or]
  | ifGroup m yes no ihy ihn => rw [countOn, groupBody?, groupBody?, ihy, ihn, Option.map_or]
  | atomic body ih => exact ih
  | look behind positive body ih => exact ih
  | repeated greedy least most body ih => exact ih
  | _ => rfl

end Node

/-- Two states at the same place, the groups of the one counted on in the other. -/
structure State.CountedOn (k : Nat) (s s' : State) : Prop where
  cursor : s'.cursor = s.cursor
  origin : s'.memory.origin = s.memory.origin
  captured : ∀ n, s'.captured? (Pattern.countedOn k n) = s.captured? n

namespace State.CountedOn

variable {k : Nat} {s s' : State}

theorem capture (h : CountedOn k s s') {n : Nat} (hn : n ≠ 0) (text : List Char) :
    CountedOn k (s.capture n text) (s'.capture (n + k) text) where
  cursor := h.cursor
  origin := h.origin
  captured m := by
    rw [captured?_capture, captured?_capture, h.captured]
    by_cases hm : m = n
    · rw [if_pos hm, hm, Pattern.countedOn, if_neg hn, if_pos rfl]
    · have hne : Pattern.countedOn k m ≠ n + k := by
        rw [Pattern.countedOn]
        split <;> omega
      rw [if_neg hm, if_neg hne]

theorem take?_cases (h : CountedOn k s s') (backward : Bool) :
    (s.take? backward = none ∧ s'.take? backward = none) ∨
    ∃ c t t', s.take? backward = some (c, t) ∧ s'.take? backward = some (c, t') ∧
      CountedOn k t t' := by
  obtain ⟨cursor, memory⟩ := s
  obtain ⟨cursor', memory'⟩ := s'
  obtain rfl : cursor' = cursor := h.cursor
  simp only [State.take?]
  cases (if backward then cursor'.backward? else cursor'.forward?) with
  | none => exact .inl ⟨rfl, rfl⟩
  | some taken => exact .inr ⟨taken.1, _, _, rfl, rfl, rfl, h.origin, h.captured⟩

theorem takeText (h : CountedOn k s s') (ignoreCase backward : Bool) (text : List Char) :
    Option.Rel (CountedOn k) (takeText ignoreCase backward text s)
      (takeText ignoreCase backward text s') := by
  induction text generalizing s s' with
  | nil => exact .some h
  | cons c rest ih =>
    rw [Pattern.takeText, Pattern.takeText]
    rcases h.take?_cases backward with ⟨hs, hs'⟩ | ⟨x, t, t', hs, hs', ht⟩
    · rw [hs, hs']
      exact .none
    · rw [hs, hs']
      dsimp only
      split
      · exact ih ht
      · exact .none

theorem enter (h : CountedOn k s s') : CountedOn k s.enter s'.enter :=
  ⟨h.cursor, h.origin, fun _ => rfl⟩

theorem leave (h : CountedOn k s s') {e e' : State} (he : CountedOn k e e') :
    CountedOn k (s.leave e) (s'.leave e') :=
  ⟨he.cursor, he.origin, h.captured⟩

theorem keep (h : CountedOn k s s') : CountedOn k s.keep s'.keep :=
  ⟨h.cursor, h.origin, h.captured⟩

end State.CountedOn

/-- Calls of groups match in the same ways under the new numbers. -/
def CallWays.CountedOn (k : Nat) (calls calls' : CallWays) : Prop :=
  ∀ n ≠ 0, ∀ backward s s', State.CountedOn k s s' →
    List.Forall₂ (State.CountedOn k) (calls.ways n backward s) (calls'.ways (n + k) backward s')

theorem forall₂_head? {α β : Type} {R : α → β → Prop} {xs : List α} {ys : List β}
    (h : List.Forall₂ R xs ys) : Option.Rel R xs.head? ys.head? := by
  cases h with
  | nil => exact .none
  | cons h _ => exact .some h

theorem forall₂_toList {α β : Type} {R : α → β → Prop} {x : Option α} {y : Option β}
    (h : Option.Rel R x y) : List.Forall₂ R x.toList y.toList := by
  cases h with
  | none => exact .nil
  | some h => exact .cons h .nil

/-- Repetition follows its steps. -/
theorem forall₂_iterateWays {R : State → State → Prop}
    (hcursor : ∀ {s s'}, R s s' → s'.cursor = s.cursor) {step step' : State → List State}
    (hstep : ∀ {s s'}, R s s' → List.Forall₂ R (step s) (step' s')) (greedy : Bool)
    (fuel least : Nat) (most : Option Nat) {s s' : State} (h : R s s') :
    List.Forall₂ R (iterateWays step greedy fuel least most s)
      (iterateWays step' greedy fuel least most s') := by
  induction fuel generalizing least most s s' with
  | zero => exact .cons h .nil
  | succ fuel ih =>
    have hagain : List.Forall₂ R
        ((step s).flatMap fun e => if e.cursor.index = s.cursor.index then [e]
          else iterateWays step greedy fuel (least - 1) (most.map (· - 1)) e)
        ((step' s').flatMap fun e => if e.cursor.index = s'.cursor.index then [e]
          else iterateWays step' greedy fuel (least - 1) (most.map (· - 1)) e) := by
      refine List.rel_flatMap (hstep h) fun e e' he => ?_
      rw [hcursor he, hcursor h]
      split
      · exact .cons he .nil
      · exact ih _ _ he
    rw [iterateWays, iterateWays]
    split
    · exact .cons h .nil
    · split
      · exact hagain
      · split
        · exact List.rel_append hagain (.cons h .nil)
        · exact .cons h hagain

/-- With its groups counted on a node matches in the same ways. -/
theorem Node.ways_countOn {k : Nat} {calls calls' : CallWays} (hcalls : calls.CountedOn k calls')
    {n : Node Nat} (hn : n.Counted) (backward : Bool) {s s' : State} (h : State.CountedOn k s s') :
    List.Forall₂ (State.CountedOn k) (n.ways calls backward s)
      ((n.countOn k).ways calls' backward s') := by
  induction n generalizing backward s s' with
  | empty => exact .cons h .nil
  | never => exact .nil
  | char ignoreCase test =>
    rw [countOn, ways, ways]
    rcases h.take?_cases backward with ⟨hs, hs'⟩ | ⟨c, t, t', hs, hs', ht⟩
    · rw [hs, hs']
      exact .nil
    · rw [hs, hs']
      dsimp only
      split
      · exact .cons ht .nil
      · exact .nil
  | anchor a =>
    rw [countOn, ways, ways, h.cursor, h.origin]
    split
    · exact .cons h .nil
    · exact .nil
  | seq a b iha ihb =>
    cases backward with
    | false => exact List.rel_flatMap (iha hn.1 false h) fun e e' he => ihb hn.2 false he
    | true => exact List.rel_flatMap (ihb hn.2 true h) fun e e' he => iha hn.1 true he
  | alt a b iha ihb =>
    exact List.rel_append (iha hn.1 backward h) (ihb hn.2 backward h)
  | group n body ih =>
    refine List.rel_map (fun e e' he => ?_) (ih hn.2 backward h)
    rw [h.cursor, he.cursor]
    exact he.capture hn.1 _
  | atomic body ih => exact forall₂_toList (forall₂_head? (ih hn backward h))
  | look behind positive body ih =>
    have hhead := forall₂_head? (ih hn behind h)
    simp only [countOn, ways]
    revert hhead
    generalize (body.ways calls behind s).head? = first
    generalize ((body.countOn k).ways calls' behind s').head? = first'
    rintro (⟨he⟩ | _)
    · cases positive with
      | true => exact .cons ⟨h.cursor, he.origin, he.captured⟩ .nil
      | false => exact .nil
    · cases positive with
      | true => exact .nil
      | false => exact .cons h .nil
  | repeated greedy least most body ih =>
    have hroom : s'.room backward = s.room backward := by rw [State.room, State.room, h.cursor]
    rw [countOn, ways, ways, hroom]
    exact forall₂_iterateWays State.CountedOn.cursor (fun h => ih hn backward h) greedy _ least
      most h
  | backref ignoreCase n =>
    rw [countOn, ways, ways, h.captured]
    cases s.captured? n with
    | none => exact .nil
    | some text => exact forall₂_toList (h.takeText ignoreCase backward _)
  | ifGroup n yes no ihy ihn =>
    rw [countOn, ways, ways, h.captured]
    cases s.captured? n with
    | none => exact ihn hn.2 backward h
    | some text => exact ihy hn.1 backward h
  | call n =>
    rw [countOn, Pattern.countedOn, if_neg hn]
    exact hcalls n hn backward s s' h
  | keep => exact .cons h.keep .nil

/-- Calls match alike in two patterns if what is called does. -/
theorem Node.callWays_countedOn {k : Nat} {root root' : Node Nat} (hroot : root.Counted)
    (hcallee : ∀ n ≠ 0, root'.callee (n + k) = (root.callee n).countOn k) (depth : Nat) :
    (root.callWays depth).CountedOn k (root'.callWays depth) := by
  induction depth with
  | zero => exact fun _ _ _ _ _ _ => .nil
  | succ depth ih =>
    intro n hn backward s s' h
    have hways := ways_countOn ih (hroot.callee n) backward h.enter
    rw [← hcallee n hn] at hways
    exact List.rel_map (fun e e' he => h.leave he) hways

section Resolving

variable {P : Place} {s u : ReadState}

/-- The groups read at a place are the ones read alone, counted on, with those before them. -/
structure Place.Renames (P : Place) (s u : ReadState) : Prop where
  named : ∀ e ∈ s.groupNames, 0 < e.2
  before : ∀ n ∈ P.opened, n ≤ P.groups
  count : u.groupCount = s.groupCount + P.groups
  names : u.groupNames = s.groupNames.map fun e => (e.1, e.2 + P.groups)
  opened : u.opened = s.opened.map (· + P.groups) ++ P.opened

/-- A group is opened at the place as often as it is alone. -/
theorem Place.Renames.count_opened (h : P.Renames s u) {n : Nat} (hn : 0 < n) :
    u.opened.count (n + P.groups) = s.opened.count n := by
  have hbefore : P.opened.count (n + P.groups) = 0 :=
    List.count_eq_zero.mpr fun hmem => absurd (h.before _ hmem) (by omega)
  rw [h.opened, List.count_append, hbefore]
  exact List.count_map_of_injective _ _ (fun _ _ => Nat.add_right_cancel) n

/-- A reference by name stands for its group counted on. -/
theorem number_pasted (h : P.Renames s u) {r : Ref} (hr : r.name.all isDigit = false) {n : Nat}
    (hn : r.number s = .ok n) :
    (P.ref r).number u = .ok (countedOn P.groups n) ∧ (r.kind = .call → n ≠ 0) := by
  simp only [Ref.number, Place.ref, hr, Bool.false_eq_true, if_false, h.names, lookup_shift] at hn ⊢
  cases hlookup : s.groupNames.lookup r.name with
  | none =>
    cases hkind : r.kind with
    | again | call => simp [hlookup, hkind] at hn
    | condition =>
      simp only [hlookup, hkind, Option.map_none] at hn ⊢
      split at hn
      · rename_i hdefine
        obtain rfl := Except.ok.inj hn
        exact ⟨if_pos hdefine, fun h => nomatch h⟩
      · cases hn
  | some m =>
    obtain ⟨e, he, rfl⟩ := mem_of_lookup hlookup
    have hpos := h.named e he
    have hcount := h.count
    have hnumber : countedOn P.groups e.2 = e.2 + P.groups := if_neg (by omega)
    cases hkind : r.kind with
    | again =>
      simp only [hlookup, hkind, Option.map_some, Bool.and_eq_true, decide_eq_true_eq] at hn ⊢
      split at hn
      · obtain rfl := Except.ok.inj hn
        rw [hnumber, if_pos (by omega)]
        exact ⟨rfl, fun h => nomatch h⟩
      · cases hn
    | condition =>
      simp only [hlookup, hkind, Option.map_some] at hn ⊢
      split at hn
      · obtain rfl := Except.ok.inj hn
        rw [hnumber, if_pos (by omega)]
        exact ⟨rfl, fun h => nomatch h⟩
      · cases hn
    | call =>
      simp only [hlookup, hkind, Option.map_some, Bool.and_eq_true, decide_eq_true_eq] at hn ⊢
      split at hn
      · cases hn
      · split at hn
        · cases hn
        · obtain rfl := Except.ok.inj hn
          rw [hnumber, h.count_opened hpos, if_neg (by omega), if_neg (by omega)]
          exact ⟨rfl, fun _ => Nat.pos_iff_ne_zero.mp hpos⟩

/-- What the node at the place stands for is what the node alone stands for, counted on. -/
theorem resolve_pasted (h : P.Renames s u) {n : Node Ref} (hn : n.Named) {r : Node Nat}
    (hr : n.resolve (Ref.number s) = .ok r) :
    (P.node n).resolve (Ref.number u) = .ok (r.countOn P.groups) ∧ r.Counted := by
  induction n generalizing r with
  | empty => cases hr; exact ⟨rfl, trivial⟩
  | never => cases hr; exact ⟨rfl, trivial⟩
  | char i t => cases hr; exact ⟨rfl, trivial⟩
  | anchor a => cases hr; exact ⟨rfl, trivial⟩
  | keep => cases hr; exact ⟨rfl, trivial⟩
  | seq a b iha ihb | alt a b iha ihb =>
    obtain ⟨a', ha, hr⟩ := ok_of_bind hr
    obtain ⟨b', hb, hr⟩ := ok_of_bind hr
    cases hr
    obtain ⟨ha, hac⟩ := iha hn.1 ha
    obtain ⟨hb, hbc⟩ := ihb hn.2 hb
    refine ⟨?_, hac, hbc⟩
    rw [Place.node, Node.resolve, ha, hb]
    rfl
  | group k body ih =>
    obtain ⟨body', hbody, hr⟩ := ok_of_bind hr
    cases hr
    obtain ⟨hbody, hc⟩ := ih hn.2 hbody
    refine ⟨?_, Nat.pos_iff_ne_zero.mp hn.1, hc⟩
    rw [Place.node, Node.resolve, hbody]
    rfl
  | atomic body ih | look _ _ body ih | repeated _ _ _ body ih =>
    obtain ⟨body', hbody, hr⟩ := ok_of_bind hr
    cases hr
    obtain ⟨hbody, hc⟩ := ih hn hbody
    refine ⟨?_, hc⟩
    rw [Place.node, Node.resolve, hbody]
    rfl
  | backref i ref =>
    obtain ⟨k, hk, hr⟩ := ok_of_bind hr
    cases hr
    refine ⟨?_, trivial⟩
    rw [Place.node, Node.resolve, (number_pasted h hn hk).1]
    rfl
  | call ref =>
    obtain ⟨k, hk, hr⟩ := ok_of_bind hr
    cases hr
    obtain ⟨hnumber, hpos⟩ := number_pasted h hn.1 hk
    refine ⟨?_, hpos hn.2⟩
    rw [Place.node, Node.resolve, hnumber]
    rfl
  | ifGroup ref yes no ihy ihn =>
    obtain ⟨k, hk, hr⟩ := ok_of_bind hr
    obtain ⟨yes', hyes, hr⟩ := ok_of_bind hr
    obtain ⟨no', hno, hr⟩ := ok_of_bind hr
    cases hr
    obtain ⟨hyes, hyc⟩ := ihy hn.2.1 hyes
    obtain ⟨hno, hnc⟩ := ihn hn.2.2 hno
    refine ⟨?_, hyc, hnc⟩
    rw [Place.node, Node.resolve, (number_pasted h hn.1 hk).1, hyes, hno]
    rfl

end Resolving

end LineJoin.Pattern
