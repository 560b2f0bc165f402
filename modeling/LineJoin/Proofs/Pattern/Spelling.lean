import LineJoin.Proofs.Pattern.ClassExtent
import LineJoin.Proofs.Pattern.Literals

/-!
# Texts of simple trees

A text spells a simple tree if it is made of literals and bracket classes by writing them one after
the other, by bars, by parentheses that are not counted, and by quantifiers after what has no empty
text. Such a text is read as its tree where no flags are set, up to the end or the closing
parenthesis behind it.
-/

namespace LineJoin.Pattern

open Reader ReadState

namespace Simple

/-- A tree with a quantifier; to be taken exactly once changes nothing. -/
def quantified (greedy : Bool) (q : Quantifier) (t : Simple) : Simple :=
  if q.least = 1 && q.most = some 1 then t else .repeated greedy q.least q.most t

end Simple

/-- What may follow the text of a tree, and the tree that both spell. -/
inductive Quantified (t : Simple) : List Char → Simple → Prop where
  | once : Quantified t [] t
  | greedy {text : List Char} {q : Quantifier} (h : QuantifierText text q)
      (htaken : ¬ t.Matches []) : Quantified t text (t.quantified true q)
  | reluctant {text : List Char} {q : Quantifier} (h : QuantifierText text q)
      (htaken : ¬ t.Matches []) : Quantified t (text ++ ['?']) (t.quantified false q)

/-- The texts of branches, with the elements of the first one and the trees of the others. -/
inductive Spells : List Char → List Simple → List Simple → Prop where
  | done : Spells [] [] []
  | bar {text : List Char} {ts bs : List Simple} (h : Spells text ts bs) :
      Spells ('|' :: text) [] (.sequence ts :: bs)
  | literal {text suffix more : List Char} {n : Nat} {t : Simple} {ts bs : List Simple}
      (h : Literal (suffix ++ more) text n) (hquantified : Quantified (.char (.code n)) suffix t)
      (hmore : Spells more ts bs) : Spells (text ++ (suffix ++ more)) (t :: ts) bs
  | set {text suffix more : List Char} {test : CharTest} {t : Simple} {ts bs : List Simple}
      (h : IsClass text test) (hquantified : Quantified (.char test) suffix t)
      (hmore : Spells more ts bs) : Spells (text ++ (suffix ++ more)) (t :: ts) bs
  | group {text suffix more : List Char} {us cs : List Simple} {t : Simple} {ts bs : List Simple}
      (h : Spells text us cs)
      (hquantified : Quantified (.branches (.sequence us :: cs)) suffix t)
      (hmore : Spells more ts bs) :
      Spells ('(' :: '?' :: ':' :: (text ++ ')' :: (suffix ++ more))) (t :: ts) bs

/-- A character that stands for itself. -/
theorem Spells.plain {c : Char} {more : List Char} {ts bs : List Simple}
    (hopens : opensElement c = false) (hquantifies : ['?', '*', '+', '\x7b'].contains c = false)
    (h : Spells more ts bs) : Spells (c :: more) (.char (.code c.toNat) :: ts) bs :=
  @Spells.literal [c] [] more _ _ ts bs (.plain hopens hquantifies) .once h

def SpelledBy (text : List Char) (t : Simple) : Prop :=
  ∃ ts bs, Spells text ts bs ∧ t = .branches (.sequence ts :: bs)

/-! ## Quantifiers after an element -/

section Quantifiers

variable {text more rest : List Char} {t t' : Simple} {ts bs : List Simple} {s u : ReadState}

/-- Neither sign that may follow a quantifier comes first. -/
def Unsigned (text : List Char) : Prop := ∀ c ∈ text.head?, c ≠ '?' ∧ c ≠ '+'

theorem unsigned_cons {c : Char} (hq : c ≠ '?') (hp : c ≠ '+') (text : List Char) :
    Unsigned (c :: text) := fun x hx => by
  obtain rfl := Option.some.inj hx
  exact ⟨hq, hp⟩

theorem Closes.unsigned (h : Closes rest) : Unsigned rest := fun c hc => by
  rw [h c hc]
  decide

theorem Literal.unsigned {n : Nat} (h : Literal more text n) (rest : List Char) :
    Unsigned (text ++ rest) := by
  cases h with
  | @plain c hopens hquantifies =>
    refine unsigned_cons ?_ ?_ rest <;> exact ne_of_kind hquantifies (by decide)
  | brace => exact unsigned_cons (by decide) (by decide) rest
  | escape => exact unsigned_cons (by decide) (by decide) _

theorem Spells.unsigned (h : Spells text ts bs) (hclose : Closes rest) :
    Unsigned (text ++ rest) := by
  cases h with
  | done => exact hclose.unsigned
  | bar => exact unsigned_cons (by decide) (by decide) _
  | literal h =>
    rw [List.append_assoc]
    exact h.unsigned _
  | set h =>
    obtain ⟨body, t, rfl, -⟩ := h
    exact unsigned_cons (by decide) (by decide) _
  | group => exact unsigned_cons (by decide) (by decide) _

/-- A quantifier repeats an element that has no empty text; the sign for the least number may
follow it. -/
theorem run_quantify {q : Quantifier} {greedy : Bool} (htaken : ¬ t.Matches [])
    (hgreedy : (accept '?').run s = .ok (!greedy, u))
    (hplain : greedy = true → (accept '+').run u = .ok (false, u)) :
    (quantify q t.node).run s = .ok ((t.quantified greedy q).node, u) := by
  have hempty : (t.node : Node Ref).isEmpty = false :=
    Bool.eq_false_iff.mpr fun h => htaken (Simple.matches_nil_of_isEmpty h)
  rw [quantify, run_bind_ok hgreedy]
  cases greedy with
  | true =>
    refine (run_bind_ok (hplain rfl)).trans ?_
    rw [hempty, Bool.false_or, Simple.quantified]
    split <;> rfl
  | false =>
    refine (run_bind_ok (run_pure false u)).trans ?_
    rw [hempty, Bool.false_or, Simple.quantified]
    split <;> rfl

/-- A quantifier after an element, with the sign that may follow it. -/
theorem QuantifierText.applied {q : Quantifier} {greedy : Bool} (h : QuantifierText text q)
    (hs : s.skips = false) (hrest : s.rest = text ++ rest) (htaken : ¬ t.Matches [])
    (hgreedy : (accept '?').run (s.past text.length rest) = .ok (!greedy, u))
    (hplain : greedy = true → (accept '+').run u = .ok (false, u)) (fuel : Nat)
    (ns : List (Node Ref)) :
    (readSequence (fuel + 1) ⟨t.node :: ns, true⟩).run s =
      (readSequence fuel ⟨(t.quantified greedy q).node :: ns, false⟩).run u := by
  obtain ⟨c, r, hsees, hopens, hread⟩ := h.reads hs hrest
  have happly : (applyQuantifier q s.position ⟨t.node :: ns, true⟩).run (s.past text.length rest) =
      .ok (⟨(t.quantified greedy q).node :: ns, false⟩, u) :=
    (run_bind_ok (run_quantify htaken hgreedy hplain)).trans rfl
  exact (run_readSequence_other hsees hopens hread nofun fuel _).trans (run_bind_ok happly)

/-- What follows an element is read with it. -/
theorem Quantified.reads (h : Quantified t text t') (hs : s.skips = false)
    (hrest : s.rest = text ++ rest) (hsign : Unsigned rest) (fuel : Nat) (ns : List (Node Ref)) :
    ∃ k quantifiable, fuel ≤ k ∧
      (readSequence (fuel + 1) ⟨t.node :: ns, true⟩).run s =
        (readSequence k ⟨t'.node :: ns, quantifiable⟩).run (s.past text.length rest) := by
  cases h with
  | once =>
    obtain rfl : s.rest = rest := hrest
    exact ⟨fuel + 1, true, Nat.le_succ fuel, rfl⟩
  | greedy h htaken =>
    let u := s.past text.length rest
    have hlazy : (accept '?').run u = .ok (!true, u) :=
      run_accept_unless hs fun c hc => (hsign c hc).1
    have hplus : (accept '+').run u = .ok (false, u) :=
      run_accept_unless hs fun c hc => (hsign c hc).2
    exact ⟨fuel, false, Nat.le_refl fuel, h.applied hs hrest htaken hlazy (fun _ => hplus) fuel ns⟩
  | @reluctant text q h htaken =>
    have hrest' : s.rest = text ++ ('?' :: rest) := by simp [hrest]
    let u := s.past text.length ('?' :: rest)
    have hlazy : (accept '?').run u = .ok (!false, u.past 1 rest) := run_accept (sees_exact rfl hs)
    have hpast : u.past 1 rest = s.past (text ++ ['?']).length rest := by
      rw [past_past, List.length_append]
      rfl
    refine ⟨fuel, false, Nat.le_refl fuel, ?_⟩
    rw [← hpast]
    exact h.applied hs hrest' htaken hlazy (fun hgreedy => absurd hgreedy Bool.false_ne_true) fuel ns

end Quantifiers

/-! ## Reading -/

/-- What is read from a text in front of a closing parenthesis or the end: the elements of a branch
and the branches after it. Two steps of fuel for each character are enough. -/
def ReadsSimple (text : List Char) (ts bs : List Simple) : Prop :=
  ∀ (f g : Nat) (seq : Sequence) (s : ReadState) (rest : List Char),
    s.Bare → Closes rest → s.rest = text ++ rest → 2 * text.length ≤ f → 2 * text.length ≤ g →
    ∃ m, (readSequence f seq).run s =
        .ok (Node.sequence (seq.elements.reverse ++ ts.map Simple.node), m) ∧
      (readMoreAlternatives g).run m = .ok (bs.map Simple.node, s.past text.length rest)

section Reading

variable {text suffix more rest : List Char} {t u : Simple} {ts us bs cs : List Simple}
  {s : ReadState} {fuel : Nat}

theorem readsSimple_nil : ReadsSimple [] [] [] := by
  intro f g seq s rest _ hclose hrest _ _
  have hpast : s.past ([] : List Char).length rest = s := past_zero hrest
  rw [hpast, List.map_nil, List.append_nil]
  cases rest with
  | nil =>
    exact ⟨s, run_readSequence_finish hrest f seq, run_readMoreAlternatives_finish hrest g⟩
  | cons c r =>
    obtain rfl := hclose c rfl
    exact ⟨s, run_readSequence_end ⟨')', r, hrest, .inl rfl⟩ f seq,
      run_readMoreAlternatives_close hrest g⟩

/-- A bar ends a branch, and the next one begins behind it. -/
theorem readsSimple_bar (h : ReadsSimple text ts bs) :
    ReadsSimple ('|' :: text) [] (.sequence ts :: bs) := by
  intro f g seq s rest hs hclose hrest _ hg
  rw [List.length_cons] at hg
  obtain ⟨g, rfl⟩ : ∃ k, g = k + 1 := ⟨g - 1, by omega⟩
  have hsees : s.Sees '|' (text ++ rest) := sees_exact hrest hs.skips
  obtain ⟨m, hsequence, hmore⟩ := h g g {} (s.past 1 (text ++ rest)) rest (hs.past _ _) hclose rfl
    (by omega) (by omega)
  refine ⟨s, ?_, ?_⟩
  · rw [run_readSequence_end ⟨'|', _, hrest, .inr rfl⟩, Sequence.toNode, List.map_nil,
      List.append_nil]
  · rw [readMoreAlternatives, run_bind_ok (run_accept hsees)]
    refine (run_bind_ok hsequence).trans ((run_bind_ok hmore).trans ?_)
    rw [past_past, Nat.add_comm 1, List.map_cons, Simple.node_sequence]
    rfl

/-- An element with what is read as one, and more behind it. -/
theorem readsSimple_cons
    (hread : ∀ (fuel : Nat) (seq : Sequence) (s : ReadState) (rest : List Char), s.Bare →
      Closes rest → s.rest = text ++ (suffix ++ more ++ rest) → 2 * text.length ≤ fuel + 1 →
      (readSequence (fuel + 1) seq).run s =
        (readSequence fuel (seq.push t.node)).run (s.past text.length (suffix ++ more ++ rest)))
    (htext : text ≠ []) (hquantified : Quantified t suffix u)
    (hsign : ∀ rest, Closes rest → Unsigned (more ++ rest)) (h : ReadsSimple more ts bs) :
    ReadsSimple (text ++ (suffix ++ more)) (u :: ts) bs := by
  intro f g seq s rest hs hclose hrest hf hg
  have hpos := List.length_pos_iff.mpr htext
  simp only [List.length_append] at hf hg
  -- The element takes one step, and what follows it at most one more.
  obtain ⟨f, rfl⟩ : ∃ k, f = k + 2 := ⟨f - 2, by omega⟩
  rw [List.append_assoc] at hrest
  let v := s.past text.length (suffix ++ more ++ rest)
  obtain ⟨k, quantifiable, hk, hsuffix⟩ := hquantified.reads (s := v) hs.skips
    (List.append_assoc suffix more rest) (hsign rest hclose) f seq.elements
  obtain ⟨m, hsequence, hmore⟩ := h k g ⟨u.node :: seq.elements, quantifiable⟩
    (v.past suffix.length (more ++ rest)) rest ((hs.past _ _).past _ _) hclose rfl (by omega)
    (by omega)
  refine ⟨m, ?_, ?_⟩
  · rw [hread (f + 1) seq s rest hs hclose hrest (by omega)]
    refine (hsuffix.trans hsequence).trans ?_
    rw [List.reverse_cons, List.append_assoc]
    rfl
  · rw [hmore, past_past, past_past, List.length_append, List.length_append]

theorem ReadsSimple.alternatives (h : ReadsSimple text ts bs) (hs : s.Bare) (hclose : Closes rest)
    (hrest : s.rest = text ++ rest) (hfuel : 2 * text.length + 1 ≤ fuel) :
    (readAlternatives fuel).run s =
      .ok ((Simple.branches (.sequence ts :: bs)).node, s.past text.length rest) := by
  obtain ⟨fuel, rfl⟩ : ∃ k, fuel = k + 1 := ⟨fuel - 1, by omega⟩
  obtain ⟨m, hsequence, hmore⟩ := h fuel fuel {} s rest hs hclose hrest (by omega) (by omega)
  rw [readAlternatives, run_bind_ok hsequence, run_bind_ok hmore, Simple.node_branches,
    List.map_cons, Simple.node_sequence]
  rfl

/-- Parentheses that are not counted. -/
theorem ReadsSimple.group (h : ReadsSimple text ts bs) (hs : s.Bare)
    (hrest : s.rest = '(' :: '?' :: ':' :: (text ++ ')' :: rest)) (hfuel : 2 * text.length ≤ fuel)
    (seq : Sequence) :
    (readSequence (fuel + 5) seq).run s =
      (readSequence (fuel + 4) (seq.push (Simple.branches (.sequence ts :: bs)).node)).run
        (s.past (text.length + 4) rest) :=
  run_readSequence_group hs.level hrest
    (h.alternatives (hs.past 3 _) (closes_parenthesis rest) rfl (Nat.succ_le_succ hfuel)) seq

/-- A text that spells a tree is read as it. -/
theorem Spells.reads (h : Spells text ts bs) : ReadsSimple text ts bs := by
  induction h with
  | done => exact readsSimple_nil
  | bar _ ih => exact readsSimple_bar ih
  | @literal text suffix more n t ts bs h hquantified hmore ih =>
    refine readsSimple_cons (t := .char (.code n)) (fun fuel seq s rest hs hclose hrest _ => ?_) ?_
      hquantified (fun _ hclose => hmore.unsigned hclose) ih
    · exact h.reads hs hclose hrest fuel seq
    · cases h <;> exact List.cons_ne_nil _ _
  | @set text suffix more test t ts bs h hquantified hmore ih =>
    refine readsSimple_cons (t := .char test) (fun fuel seq s rest hs _ hrest hfuel => ?_) ?_
      hquantified (fun _ hclose => hmore.unsigned hclose) ih
    · rw [h.readsElement fuel seq s _ hfuel hs.level hrest, hs.flags]
      rfl
    · obtain ⟨body, _, rfl, -⟩ := h
      exact List.cons_ne_nil _ _
  | @group text suffix more us cs t ts bs h hquantified hmore ih ihmore =>
    have hread : ReadsSimple (('(' :: '?' :: ':' :: (text ++ [')'])) ++ (suffix ++ more))
        (t :: ts) bs :=
      readsSimple_cons (t := .branches (.sequence us :: cs))
        (fun fuel seq s rest hs _ hrest hfuel => ?_) (List.cons_ne_nil _ _) hquantified
        (fun _ hclose => hmore.unsigned hclose) ihmore
    · simpa using hread
    -- The parentheses are four characters long, which leaves enough steps for what they hold.
    · simp only [List.length_cons, List.length_append, List.length_nil] at hfuel ⊢
      obtain ⟨fuel, rfl⟩ : ∃ k, fuel = k + 4 := ⟨fuel - 4, by omega⟩
      exact ih.group hs (by simp [hrest]) (by omega) seq

/-- A text that spells a tree is a pattern of its own with this tree. -/
theorem SpelledBy.read (h : SpelledBy text t) :
    ∃ p, Pattern.read text = .ok p ∧ p.root = t.node := by
  obtain ⟨ts, bs, hspells, rfl⟩ := h
  have hread : (readAlternatives (6 * text.length + 8)).run (.start text {}) =
      .ok ((Simple.branches (.sequence ts :: bs)).node,
        (ReadState.start text {}).past text.length []) :=
    hspells.reads.alternatives ⟨rfl, rfl⟩ (fun _ h => nomatch h) (List.append_nil text).symm
      (by omega)
  exact ⟨_, read_of_readWhole (run_readWhole_alternatives hread rfl) (Simple.resolve_node _ _), rfl⟩

end Reading

end LineJoin.Pattern
