import LineJoin.Proofs.Pattern.PastedLimits

/-!
# Reading a pasted text as it is read alone

`ReadsAlike` says of one amount of fuel that everything with groups in it is read at the place as it
is read alone, given fuel for the text that is left alone. It holds of all amounts by induction: each
reader consumes a character or passes to a smaller one of those it calls, so six steps a character
are enough.
-/

namespace LineJoin.Pattern

open Reader ReadState

variable [CharacterNames]

namespace Place

/-- Two nodes read at the place are the ones read alone. -/
def CopiesBoth (P : Place) (a b : Node Ref × Node Ref) : Prop :=
  P.Copies a.1 b.1 ∧ P.Copies a.2 b.2

/-- Branches read at the place are the ones read alone, with groups counted on. -/
def CopiesReset (P : Place) (a b : List (Node Ref) × Nat) : Prop :=
  P.CopiesAll a.1 b.1 ∧ b.2 = a.2 + P.groups

structure ReadsAlike (P : Place) (n : Nat) : Prop where
  alternatives : ∀ {n' : Nat} {s : ReadState}, n ≤ n' → s.Sound → 6 * s.rest.length + 2 ≤ n →
    Mirrors (readAlternatives n) (readAlternatives n') s (P.state s) (P.Went P.Copies s)
  more : ∀ {n' : Nat} {s : ReadState}, n ≤ n' → s.Sound → 6 * s.rest.length + 1 ≤ n →
    Mirrors (readMoreAlternatives n) (readMoreAlternatives n') s (P.state s)
      (P.Went P.CopiesAll s)
  sequence : ∀ {n' : Nat} {s : ReadState} {q q' : Sequence}, n ≤ n' → s.Sound →
    6 * s.rest.length + 1 ≤ n → P.CopiesSequence q q' →
    Mirrors (readSequence n q) (readSequence n' q') s (P.state s) (P.Went P.Copies s)
  parenthesis : ∀ {n' : Nat} {s : ReadState}, n ≤ n' → s.Sound → 6 * s.rest.length + 4 ≤ n →
    numberInside s.rest = false →
    Mirrors (readParenthesis n) (readParenthesis n') s (P.state s)
      (P.Went (Option.Rel P.Copies) s)
  body : ∀ {n' : Nat} {s : ReadState} (outer : Flags), n ≤ n' → s.Sound →
    6 * s.rest.length + 3 ≤ n →
    Mirrors (readBody n outer) (readBody n' outer) s (P.state s) (P.Went P.Copies s)
  namedGroup : ∀ {n' : Nat} {s : ReadState} (outer : Flags), n ≤ n' → s.Sound →
    6 * s.rest.length + 4 ≤ n →
    Mirrors (readNamedGroup n outer) (readNamedGroup n' outer) s (P.state s) (P.Went P.Copies s)
  extension : ∀ {n' : Nat} {s : ReadState} (outer : Flags), n ≤ n' → s.Sound →
    6 * s.rest.length + 5 ≤ n → numberAfter '=' s.rest = false →
    Mirrors (readExtension n outer) (readExtension n' outer) s (P.state s) (P.Went P.Copies s)
  condition : ∀ {n' : Nat} {s : ReadState} (outer : Flags), n ≤ n' → s.Sound →
    6 * s.rest.length + 4 ≤ n → digitFirst s.rest = false →
    Mirrors (readCondition n outer) (readCondition n' outer) s (P.state s) (P.Went P.Copies s)
  branches : ∀ {n' : Nat} {s : ReadState}, n ≤ n' → s.Sound → 6 * s.rest.length + 2 ≤ n →
    Mirrors (readBranches n) (readBranches n') s (P.state s) (P.Went P.CopiesBoth s)
  reset : ∀ {n' : Nat} {s : ReadState}, n ≤ n' → s.Sound → 6 * s.rest.length + 2 ≤ n →
    Mirrors (readReset n) (readReset n') s (P.state s) (P.Went P.Copies s)
  moreReset : ∀ {n' : Nat} {s : ReadState} (initial final : Nat), n ≤ n' → s.Sound →
    6 * s.rest.length + 1 ≤ n →
    Mirrors (readMoreReset n initial final)
      (readMoreReset n' (initial + P.groups) (final + P.groups)) s (P.state s)
      (P.Went P.CopiesReset s)
  flagged : ∀ {n' : Nat} {s : ReadState}, n ≤ n' → s.Sound → 6 * s.rest.length + 4 ≤ n →
    Mirrors (readFlagged n) (readFlagged n') s (P.state s) (P.Went (Option.Rel P.Copies) s)

namespace ReadsAlike

variable {P : Place} {s : ReadState} {n m : Nat}

theorem zero (P : Place) : P.ReadsAlike 0 where
  alternatives _ _ h := absurd h (by omega)
  more _ _ h := absurd h (by omega)
  sequence _ _ h := absurd h (by omega)
  parenthesis _ _ h := absurd h (by omega)
  body _ _ _ h := absurd h (by omega)
  namedGroup _ _ _ h := absurd h (by omega)
  extension _ _ _ h := absurd h (by omega)
  condition _ _ _ h := absurd h (by omega)
  branches _ _ h := absurd h (by omega)
  reset _ _ h := absurd h (by omega)
  moreReset _ _ _ _ h := absurd h (by omega)
  flagged _ _ h := absurd h (by omega)

theorem alternatives_succ (ih : P.ReadsAlike n) (hnm : n ≤ m) (hs : s.Sound)
    (hfuel : 6 * s.rest.length + 2 ≤ n + 1) :
    Mirrors (readAlternatives (n + 1)) (readAlternatives (m + 1)) s (P.state s)
      (P.Went P.Copies s) := by
  rw [readAlternatives, readAlternatives]
  refine Place.bind (ih.sequence hnm hs (by omega) copiesSequence_empty) ?_
  intro first first' t hfirst ht
  have hle := ht.shorter
  refine Place.bind (ih.more hnm ht.sound (by omega)) ?_
  intro rest rest' u hrest hu
  exact .pure ⟨copies_branches (.cons hfirst hrest), rfl, hu.sound.onward⟩

theorem more_succ (hP : P.Proper) (ih : P.ReadsAlike n) (hnm : n ≤ m) (hs : s.Sound)
    (hfuel : 6 * s.rest.length + 1 ≤ n + 1) :
    Mirrors (readMoreAlternatives (n + 1)) (readMoreAlternatives (m + 1)) s (P.state s)
      (P.Went P.CopiesAll s) := by
  rw [readMoreAlternatives, readMoreAlternatives]
  rcases accept_cases (c := '|') hP (.inl rfl) hs (by decide) with ⟨h, h', -⟩ | ⟨t, h, h', ht, -⟩
  · exact Mirrors.step h h' (.pure ⟨.nil, rfl, hs.onward⟩)
  · have hlt := ht.shorter
    have ht := ht.onward hs (by decide)
    refine Place.step h h' ht ?_
    refine Place.bind (ih.sequence hnm ht.sound (by omega) copiesSequence_empty) ?_
    intro first first' u hfirst hu
    have hle := hu.shorter
    refine Place.bind (ih.more hnm hu.sound (by omega)) ?_
    intro rest rest' v hrest hv
    exact .pure ⟨.cons hfirst hrest, rfl, hv.sound.onward⟩

theorem body_succ (ih : P.ReadsAlike n) (hnm : n ≤ m) (hs : s.Sound) (outer : Flags)
    (hfuel : 6 * s.rest.length + 3 ≤ n + 1) :
    Mirrors (readBody (n + 1) outer) (readBody (m + 1) outer) s (P.state s)
      (P.Went P.Copies s) := by
  rw [readBody, readBody]
  refine Place.bind (ih.alternatives hnm hs (by omega)) ?_
  intro body body' t hbody ht
  refine Place.bind (expect_close_mirrors ht.sound) ?_
  intro _ _ u _ hu
  refine Place.bind (setFlags_agree hu.sound outer).mirrors ?_
  intro _ _ v _ hv
  exact .pure ⟨hbody, rfl, hv.sound.onward⟩

theorem branches_succ (hP : P.Proper) (ih : P.ReadsAlike n) (hnm : n ≤ m) (hs : s.Sound)
    (hfuel : 6 * s.rest.length + 2 ≤ n + 1) :
    Mirrors (readBranches (n + 1)) (readBranches (m + 1)) s (P.state s)
      (P.Went P.CopiesBoth s) := by
  rw [readBranches, readBranches]
  refine Place.bind (ih.sequence hnm hs (by omega) copiesSequence_empty) ?_
  intro yes yes' t hyes ht
  have hle := ht.shorter
  refine Place.bind (accept_went hP ht.sound (by decide) (by decide)).mirrors ?_
  rintro bar _ u rfl hu
  have hle' := hu.shorter
  have hclose {v : ReadState} {no no' : Node Ref} (hv : v.Sound) (hno : P.Copies no no') :
      Mirrors (do expect ')'; return (yes, no)) (do expect ')'; return (yes', no')) v (P.state v)
        (P.Went P.CopiesBoth v) := by
    refine Place.bind (expect_close_mirrors hv) ?_
    intro _ _ w _ hw
    exact .pure ⟨⟨hyes, hno⟩, rfl, hw.sound.onward⟩
  cases bar with
  | false => exact hclose hu.sound ⟨rfl, trivial⟩
  | true =>
    refine Place.bind (ih.sequence hnm hu.sound (by omega) copiesSequence_empty) ?_
    intro no no' v hno hv
    exact hclose hv.sound hno

theorem sequence_succ (hP : P.Proper) (ih : P.ReadsAlike n) (hnm : n ≤ m) (hs : s.Sound)
    {q q' : Sequence} (hfuel : 6 * s.rest.length + 1 ≤ n + 1) (hq : P.CopiesSequence q q') :
    Mirrors (readSequence (n + 1) q) (readSequence (m + 1) q') s (P.state s)
      (P.Went P.Copies s) := by
  have hend {t u : ReadState} : Mirrors (do set s; return q.toNode)
      (do set (P.state s); return q'.toNode) t u (P.Went P.Copies s) :=
    Mirrors.step (run_set t s) (run_set u _) (.pure ⟨copies_toNode hq, rfl, hs.onward⟩)
  have hgo {t : ReadState} {r r' : Sequence} (ht : s.Onward t)
      (hlt : t.rest.length < s.rest.length) (hr : P.CopiesSequence r r') :
      Mirrors (readSequence n r) (readSequence m r') t (P.state t) (P.Went P.Copies s) := by
    refine (ih.sequence hnm ht.sound (by omega) hr).mono ?_
    rintro a u b v ⟨hab, rfl, hu⟩
    exact ⟨hab, rfl, ht.trans hu⟩
  rw [readSequence, readSequence]
  refine Mirrors.step (run_get s) (run_get _) ?_
  rcases next_cases hP hs with ⟨c, t, h, h', ht, -⟩ | ⟨t, u, c, h, h', hc⟩
  · have hlt := ht.shorter
    have hpush {n n' : Node Ref} (hc : c ≠ '\\') (hn : P.Copies n n') :
        Mirrors (readSequence _ (q.push n)) (readSequence m (q'.push n')) t (P.state t)
          (P.Went P.Copies s) := hgo (ht.onward hs hc) hlt (copiesSequence_push hq hn)
    refine Mirrors.step h h' ?_
    dsimp only
    split
    · exact hend
    · split
      · rename_i hback
        subst hback
        refine (readEscape_mirrors hP (ht.escaping hs) false).bind ?_
        rintro a u b _ ⟨hab, rfl, hu⟩
        have hle := hu.shorter
        exact hgo (ht.onward_trans hu) (by omega)
          (copiesSequence_push hq (copiesAtom_toNode hab s.flags.ignoreCase))
      · rename_i hback
        have hst := ht.onward hs hback
        split
        · rename_i hopen
          subst hopen
          refine (ih.parenthesis hnm hst.sound (by omega)
            (refersByNumber_of_open ht.numbers).1).bind ?_
          rintro found found' u _ ⟨hfound, rfl, hu⟩
          have hle := hu.shorter
          cases hfound with
          | some hn => exact hgo (hst.trans hu) (by omega) (copiesSequence_push hq hn)
          | none => exact hgo (hst.trans hu) (by omega) hq
        · split
          · exact hpush hback ⟨rfl, trivial⟩
          · split
            · refine (readSet_mirrors hP hst.sound).bind ?_
              rintro test u _ _ ⟨rfl, rfl, hu⟩
              have hle := hu.shorter
              exact hgo (hst.trans hu) (by omega) (copiesSequence_push hq ⟨rfl, trivial⟩)
            · split
              · exact hpush hback ⟨rfl, trivial⟩
              · split
                · exact hpush hback ⟨rfl, trivial⟩
                · refine (readQuantifier_mirrors hP hst.sound c).bind ?_
                  rintro found u _ _ ⟨rfl, rfl, hu⟩
                  have hle := hu.shorter
                  cases found with
                  | none =>
                    refine (readBrace_mirrors hP hu.sound c).bind ?_
                    rintro limits v _ _ ⟨rfl, rfl, hv⟩
                    have hle' := hv.shorter
                    have hsv := (hst.trans hu).trans hv
                    cases limits with
                    | none => exact hgo hsv (by omega) (copiesSequence_push hq ⟨rfl, trivial⟩)
                    | some l =>
                      refine (applyLimits_mirrors hv.sound l s.position hq).bind ?_
                      rintro r w r' _ ⟨hr, rfl, hw⟩
                      have hle'' := hw.shorter
                      exact hgo (hsv.trans hw) (by omega) hr
                  | some quantifier =>
                    refine (applyQuantifier_mirrors hP hu.sound quantifier s.position hq).bind ?_
                    rintro r v r' _ ⟨hr, rfl, hv⟩
                    have hle' := hv.shorter
                    exact hgo ((hst.trans hu).trans hv) (by omega) hr
  · refine Mirrors.step h h' ?_
    rcases hc with rfl | rfl
    · exact hend
    · exact hend

theorem namedGroup_succ (hP : P.Proper) (ih : P.ReadsAlike n) (hnm : n ≤ m) (hs : s.Sound)
    (outer : Flags) (hfuel : 6 * s.rest.length + 4 ≤ n + 1) :
    Mirrors (readNamedGroup (n + 1) outer) (readNamedGroup (m + 1) outer) s (P.state s)
      (P.Went P.Copies s) := by
  rw [readNamedGroup, readNamedGroup]
  refine (readName_follow hP hs false fun h => absurd h Bool.false_ne_true).mirrors.bind ?_
  rintro name t _ t' ⟨rfl, htt', ht, -⟩
  rcases htt' with rfl | hend
  · refine (openGroup_agree ht.sound (some name)).mirrors.bind ?_
    rintro k u _ _ ⟨rfl, rfl, hk, hu, hrest, hopens⟩
    refine (expect_follow hP (.inl rfl) hu (by decide) (by decide)).mirrors.bind ?_
    rintro _ v _ _ ⟨rfl, hv, -⟩
    have hle := ht.shorter
    have hle' := hv.shorter
    rw [hrest] at hle'
    refine (ih.body outer hnm hv.sound (by omega)).bind ?_
    rintro body w body' _ ⟨hbody, rfl, hw⟩
    have hle'' := hw.shorter
    refine (closeGroup_agree hw.sound (hw.opens.trans (hv.opens.trans hopens))).mirrors.bind ?_
    rintro _ x _ _ ⟨rfl, hx, hrest', hopens'⟩
    refine .pure ⟨⟨congrArg _ hbody.1, hk, hbody.2⟩, rfl, ?_, hopens'.trans ht.opens, hx⟩
    rw [hrest']
    omega
  · obtain ⟨k, u, k', u', h, h', -, -, -, -, hrest, -⟩ :=
      openGroup_agree (P := P) ht.sound (some name)
    refine .of_fault (e := ⟨.missing (String.singleton '>'), u.position⟩) ?_
    rw [run_bind_ok h]
    refine run_bind_error ?_
    rw [expect, run_bind_ok (run_accept_end (hrest.trans hend.alone) '>')]
    rfl

theorem extension_succ (hP : P.Proper) (ih : P.ReadsAlike n) (hnm : n ≤ m) (hs : s.Sound)
    (outer : Flags) (hfuel : 6 * s.rest.length + 5 ≤ n + 1)
    (hnumber : numberAfter '=' s.rest = false) :
    Mirrors (readExtension (n + 1) outer) (readExtension (m + 1) outer) s (P.state s)
      (P.Went P.Copies s) := by
  rw [readExtension, readExtension]
  refine Mirrors.step (run_position s) (run_position _) ?_
  rcases next_cases hP hs with ⟨c, t, h, h', ht, hahead⟩ | ⟨t, u, c, h, -, -⟩
  · have hlt := ht.shorter
    by_cases hknown : c = '<' ∨ c = '=' ∨ c = '>' ∨ c = '&'
    · have hback : c ≠ '\\' := by
        rintro rfl
        revert hknown
        decide
      have hst := ht.onward hs hback
      refine Place.step h h' hst ?_
      rcases hknown with rfl | rfl | rfl | rfl
      · exact ih.namedGroup outer hnm hst.sound (by omega)
      · exact readParenthesisedReference_mirrors hP hst.sound
          (numberAfter_ahead hnumber hahead (by decide)) s.position
      · exact readCall_mirrors hP hst.sound s.position
      · exact readCall_mirrors hP hst.sound s.position
    · simp only [not_or] at hknown
      refine .of_fault (e := ⟨.unknownExtension, s.position⟩) ?_
      rw [run_bind_ok h]
      split
      · rename_i heq
        exact absurd (Option.some.inj heq) hknown.1
      · rename_i heq
        exact absurd (Option.some.inj heq) hknown.2.1
      · rename_i heq
        exact absurd (Option.some.inj heq) hknown.2.2.1
      · rename_i heq
        exact absurd (Option.some.inj heq) hknown.2.2.2
      · rfl
  · exact .of_fault (run_bind_ok h)

omit [CharacterNames] in
theorem lookKind_agree (hP : P.Proper) (hs : s.Sound) :
    Agree (attempt readCondition.lookKind) (attempt readCondition.lookKind) s (P.state s)
      fun a t b u => a = b ∧ u = P.state t ∧ s.Onward t ∧ (a = none → t = s) := by
  have hnone {t u : ReadState} : Agree (pure none : Reader (Option (Bool × Bool))) (pure none) t u
      fun a t b u => a = b ∧ (a ≠ none → u = P.state t ∧ s.Onward t) :=
    .pure ⟨rfl, fun h => absurd rfl h⟩
  have hsome {t u : ReadState} {c d : Char} (kind : Bool × Bool) (ht : s.Onward t)
      (hu : t.Took c u) (hc : some c = some d) (hd : d ≠ '\\') :
      Agree (pure (some kind) : Reader (Option (Bool × Bool))) (pure (some kind)) u (P.state u)
        fun a t b u => a = b ∧ (a ≠ none → u = P.state t ∧ s.Onward t) := by
    cases hc
    exact .pure ⟨rfl, fun _ => ⟨rfl, ht.trans (hu.onward ht.sound hd)⟩⟩
  refine attempt_tried hs ?_
  refine (accept_went hP hs (by decide) (by decide)).bind ?_
  rintro question t _ _ ⟨rfl, rfl, ht⟩
  cases question with
  | false => exact hnone
  | true =>
    rcases next_cases hP ht.sound with ⟨c, u, h, h', hu, -⟩ | ⟨u, u', c, h, h', hc⟩
    · refine Agree.step h h' ?_
      split
      · exact hsome _ ht hu ‹_› (by decide)
      · exact hsome _ ht hu ‹_› (by decide)
      · rename_i hc
        cases hc
        have htu := ht.trans (hu.onward ht.sound (by decide))
        rcases next_cases hP htu.sound with ⟨c, v, h, h', hv, -⟩ | ⟨v, v', c, h, h', hc⟩
        · refine Agree.step h h' ?_
          split
          · exact hsome _ htu hv ‹_› (by decide)
          · exact hsome _ htu hv ‹_› (by decide)
          · exact hnone
        · refine Agree.step h h' ?_
          rcases hc with rfl | rfl
          · exact hnone
          · exact hnone
      · exact hnone
    · refine Agree.step h h' ?_
      rcases hc with rfl | rfl
      · exact hnone
      · exact hnone

theorem condition_succ (hP : P.Proper) (ih : P.ReadsAlike n) (hnm : n ≤ m) (hs : s.Sound)
    (outer : Flags) (hfuel : 6 * s.rest.length + 4 ≤ n + 1) (hnumber : digitFirst s.rest = false) :
    Mirrors (readCondition (n + 1) outer) (readCondition (m + 1) outer) s (P.state s)
      (P.Went P.Copies s) := by
  rw [readCondition, readCondition]
  refine Mirrors.step (run_position s) (run_position _) ?_
  refine (lookKind_agree hP hs).mirrors.bind ?_
  rintro kind t _ _ ⟨rfl, rfl, ht, hnone⟩
  have hle := ht.shorter
  cases kind with
  | some kind =>
    obtain ⟨behind, positive⟩ := kind
    refine (ih.body outer hnm ht.sound (by omega)).bind ?_
    rintro look u look' _ ⟨hlook, rfl, hu⟩
    have hle' := hu.shorter
    refine (ih.branches hnm hu.sound (by omega)).bind ?_
    rintro ⟨yes, no⟩ v ⟨yes', no'⟩ _ ⟨⟨hyes, hno⟩, rfl, hv⟩
    refine (setFlags_agree hv.sound outer).mirrors.bind ?_
    rintro _ w _ _ ⟨-, rfl, hw⟩
    obtain ⟨rfl, hlook⟩ := hlook
    obtain ⟨rfl, hyes⟩ := hyes
    obtain ⟨rfl, hno⟩ := hno
    exact .pure ⟨⟨rfl, ⟨hlook, hyes⟩, hlook, hno⟩, rfl, ((ht.trans hu).trans hv).trans hw⟩
  | none =>
    obtain rfl := hnone rfl
    refine (readName_follow hP hs true fun _ => hnumber).mirrors.bind ?_
    rintro name u _ u' ⟨rfl, huu', hu, hname⟩
    refine (expect_close_beside huu' hu.sound).bind ?_
    rintro _ v _ _ ⟨-, rfl, hv⟩
    have hle' := hu.shorter
    have hle'' := hv.shorter
    refine (ih.branches hnm hv.sound (by omega)).bind ?_
    rintro ⟨yes, no⟩ w ⟨yes', no'⟩ _ ⟨⟨hyes, hno⟩, rfl, hw⟩
    refine (setFlags_agree hw.sound outer).mirrors.bind ?_
    rintro _ x _ _ ⟨-, rfl, hx⟩
    obtain ⟨rfl, hyes⟩ := hyes
    obtain ⟨rfl, hno⟩ := hno
    simp only [isEmpty_node]
    have hsx := ((hu.trans hv).trans hw).trans hx
    split
    · exact .pure ⟨⟨rfl, trivial⟩, rfl, hsx⟩
    · exact .pure ⟨⟨rfl, hname, hyes, hno⟩, rfl, hsx⟩

omit [CharacterNames] in
/-- The groups are counted from a given number on. -/
theorem countFrom_agree (hs : s.Sound) (count : Nat) :
    Agree (modify fun t => { t with groupCount := count } : Reader PUnit)
      (modify fun t => { t with groupCount := count + P.groups } : Reader PUnit) s (P.state s)
      (P.Went Eq s) :=
  ⟨⟨⟩, { s with groupCount := count }, ⟨⟩, _, run_modify _ _, run_modify _ _, rfl, rfl,
    Nat.le_refl _, rfl, hs.numbers, hs.named⟩

theorem moreReset_succ (hP : P.Proper) (ih : P.ReadsAlike n) (hnm : n ≤ m) (hs : s.Sound)
    (initial final : Nat) (hfuel : 6 * s.rest.length + 1 ≤ n + 1) :
    Mirrors (readMoreReset (n + 1) initial final)
      (readMoreReset (m + 1) (initial + P.groups) (final + P.groups)) s (P.state s)
      (P.Went P.CopiesReset s) := by
  rw [readMoreReset, readMoreReset]
  rcases accept_cases (c := '|') hP (.inl rfl) hs (by decide) with ⟨h, h', -⟩ | ⟨t, h, h', ht, -⟩
  · exact Mirrors.step h h' (.pure ⟨⟨.nil, rfl⟩, rfl, hs.onward⟩)
  · have hlt := ht.shorter
    have ht := ht.onward hs (by decide)
    refine Place.step h h' ht ?_
    refine Place.bind (countFrom_agree ht.sound initial).mirrors ?_
    rintro _ _ u - hu
    have hle := hu.shorter
    refine Place.bind (ih.sequence hnm hu.sound (by omega) copiesSequence_empty) ?_
    intro branch branch' v hbranch hv
    have hle' := hv.shorter
    refine Mirrors.step (run_get v) (run_get _) ?_
    have hmax : max (final + P.groups) (P.state v).groupCount =
        max final v.groupCount + P.groups := Nat.add_max_add_right _ _ _
    rw [hmax]
    refine Place.bind (ih.moreReset initial (max final v.groupCount) hnm hv.sound (by omega)) ?_
    rintro ⟨rest, last⟩ ⟨rest', last'⟩ w ⟨hrest, hlast⟩ hw
    exact .pure ⟨⟨.cons hbranch hrest, hlast⟩, rfl, hw.sound.onward⟩

theorem reset_succ (ih : P.ReadsAlike n) (hnm : n ≤ m) (hs : s.Sound)
    (hfuel : 6 * s.rest.length + 2 ≤ n + 1) :
    Mirrors (readReset (n + 1)) (readReset (m + 1)) s (P.state s) (P.Went P.Copies s) := by
  rw [readReset, readReset]
  refine Mirrors.step (run_get s) (run_get _) ?_
  refine Place.bind (ih.sequence hnm hs (by omega) copiesSequence_empty) ?_
  intro first first' t hfirst ht
  have hle := ht.shorter
  refine Mirrors.step (run_get t) (run_get _) ?_
  refine Place.bind (ih.moreReset s.groupCount t.groupCount hnm ht.sound (by omega)) ?_
  rintro ⟨rest, last⟩ ⟨rest', last'⟩ u ⟨hrest, hlast⟩ hu
  simp only at hlast
  subst hlast
  refine Place.bind (countFrom_agree hu.sound last).mirrors ?_
  rintro _ _ v - hv
  refine Place.bind (expect_close_mirrors hv.sound) ?_
  rintro _ _ w - hw
  exact .pure ⟨copies_branches (.cons hfirst hrest), rfl, hw.sound.onward⟩

theorem flagged_succ (hP : P.Proper) (ih : P.ReadsAlike n) (hnm : n ≤ m) (hs : s.Sound)
    (hfuel : 6 * s.rest.length + 4 ≤ n + 1) :
    Mirrors (readFlagged (n + 1)) (readFlagged (m + 1)) s (P.state s)
      (P.Went (Option.Rel P.Copies) s) := by
  rw [readFlagged, readFlagged]
  refine Mirrors.step (run_flags s) (run_flags _) ?_
  refine Place.bind (readFlagChange_mirrors hP hs) ?_
  rintro change _ t rfl ht
  have hle := ht.shorter
  split
  · exact .of_fault rfl
  · refine Place.bind (accept_went hP ht.sound (by decide) (by decide)).mirrors ?_
    rintro colon _ u rfl hu
    have hle' := hu.shorter
    cases colon with
    | true =>
      refine Place.bind (setFlags_agree hu.sound _).mirrors ?_
      rintro _ _ v - hv
      have hle'' := hv.shorter
      refine Place.bind (ih.body s.flags hnm hv.sound (by omega)) ?_
      intro body body' w hbody hw
      exact .pure ⟨.some hbody, rfl, hw.sound.onward⟩
    | false =>
      rcases accept_close_cases (P := P) hu.sound with ⟨v, h, h', hv⟩ | h
      · refine Place.step h h' hv ?_
        refine Place.bind (applyGlobally_mirrors hv.sound change) ?_
        rintro _ _ w - hw
        exact .pure ⟨.none, rfl, hw.sound.onward⟩
      · exact .of_fault (run_bind_ok h)

/-- A group with a number of its own. -/
theorem countedGroup_mirrors (ih : P.ReadsAlike n) (hnm : n ≤ m) (hs : s.Sound)
    (hfuel : 6 * s.rest.length + 4 ≤ n + 1) :
    Mirrors (countedGroup (readBody n s.flags)) (countedGroup (readBody m s.flags)) s (P.state s)
      (P.Went P.Copies s) := by
  refine (openGroup_agree hs none).mirrors.bind ?_
  rintro k t _ _ ⟨rfl, rfl, hk, ht, hrest, hopens⟩
  refine (ih.body s.flags hnm ht (by rw [hrest]; omega)).bind ?_
  rintro body u body' _ ⟨hbody, rfl, hu⟩
  refine (closeGroup_agree hu.sound (hu.opens.trans hopens)).mirrors.bind ?_
  rintro _ v _ _ ⟨rfl, hv, hrest', hopens'⟩
  have hle := hu.shorter
  rw [hrest, ← hrest'] at hle
  exact .pure ⟨⟨congrArg _ hbody.1, hk, hbody.2⟩, rfl, hle, hopens', hv⟩

omit [CharacterNames] in
theorem some_mirrors {x y : Reader (Node Ref)} {t : ReadState} (hst : s.Onward t)
    (h : Mirrors x y t (P.state t) (P.Went P.Copies t)) :
    Mirrors (do return some (← x)) (do return some (← y)) t (P.state t)
      (P.Went (Option.Rel P.Copies) s) := by
  refine h.bind ?_
  rintro a u b _ ⟨hab, rfl, hu⟩
  exact .pure ⟨.some hab, rfl, hst.trans hu⟩

/-- The inside of a look-around or of an atomic group. -/
theorem wrapped_mirrors (ih : P.ReadsAlike n) (hnm : n ≤ m) {t : ReadState} (hst : s.Onward t)
    (hfuel : 6 * t.rest.length + 3 ≤ n) (outer : Flags) (wrap : Node Ref → Node Ref)
    (hwrap : ∀ body, P.node (wrap body) = wrap (P.node body) ∧ (body.Named → (wrap body).Named)) :
    Mirrors (do return some (wrap (← readBody n outer))) (do return some (wrap (← readBody m outer)))
      t (P.state t) (P.Went (Option.Rel P.Copies) s) := by
  refine (ih.body outer hnm hst.sound hfuel).bind ?_
  rintro body u _ _ ⟨⟨rfl, hbody⟩, rfl, hu⟩
  exact .pure ⟨.some ⟨(hwrap body).1.symm, (hwrap body).2 hbody⟩, rfl, hst.trans hu⟩

/-- A look-behind, or a group with a name. -/
theorem angle_mirrors (hP : P.Proper) (ih : P.ReadsAlike n) (hnm : n ≤ m) {t : ReadState}
    (hst : s.Onward t) (hfuel : 6 * t.rest.length + 4 ≤ n) (outer : Flags) :
    let x (n : Nat) : Reader (Option (Node Ref)) := do
      let afterAngle ← get
      match ← next with
      | some '=' => return some (.look true true (← readBody n outer))
      | some '!' => return some (.look true false (← readBody n outer))
      | _ =>
        set afterAngle
        return some (← readNamedGroup n outer)
    Mirrors (x n) (x m) t (P.state t) (P.Went (Option.Rel P.Copies) s) := by
  have hname {u u' : ReadState} :
      Mirrors (do set t; return some (← readNamedGroup n outer))
        (do set (P.state t); return some (← readNamedGroup m outer)) u u'
        (P.Went (Option.Rel P.Copies) s) := by
    refine Mirrors.step (run_set u t) (run_set u' _) ?_
    exact some_mirrors hst (ih.namedGroup outer hnm hst.sound hfuel)
  refine Mirrors.step (run_get t) (run_get _) ?_
  rcases next_cases hP hst.sound with ⟨c, u, h, h', hu, -⟩ | ⟨u, u', c, h, h', hc⟩
  · have hlt := hu.shorter
    refine Mirrors.step h h' ?_
    split
    · rename_i hc
      cases hc
      exact wrapped_mirrors ih hnm (hst.trans (hu.onward hst.sound (by decide))) (by omega) outer
        (.look true true) fun _ => ⟨rfl, fun h => h⟩
    · rename_i hc
      cases hc
      exact wrapped_mirrors ih hnm (hst.trans (hu.onward hst.sound (by decide))) (by omega) outer
        (.look true false) fun _ => ⟨rfl, fun h => h⟩
    · exact hname
  · refine Mirrors.step h h' ?_
    rcases hc with rfl | rfl
    · exact hname
    · exact hname

/-- Flags, read from a place the reader goes back to. -/
theorem flagsAgain_mirrors (ih : P.ReadsAlike n) (hnm : n ≤ m) {t u u' : ReadState}
    (hst : s.Onward t) (hfuel : 6 * t.rest.length + 4 ≤ n) :
    Mirrors (do set t; readFlagged n) (do set (P.state t); readFlagged m) u u'
      (P.Went (Option.Rel P.Copies) s) := by
  refine Mirrors.step (run_set u t) (run_set u' _) ?_
  refine (ih.flagged hnm hst.sound hfuel).mono ?_
  rintro found v found' w ⟨hfound, hw, hv⟩
  exact ⟨hfound, hw, hst.trans hv⟩

omit [CharacterNames] in
/-- What follows the parenthesis is a character at the place only if it is that one alone. -/
theorem rest_ne_cons {c : Char} (hc : c ≠ ')') (h : ∀ rest, s.rest ≠ c :: rest)
    (rest : List Char) : (P.state s).rest ≠ c :: rest := by
  intro heq
  cases hrest : s.rest with
  | nil =>
    rw [state, hrest] at heq
    exact absurd (List.cons.inj heq).1.symm hc
  | cons d text =>
    rw [rest_state_of_cons hrest] at heq
    exact h text (by rw [hrest, (List.cons.inj heq).1])

/-- A verb, or a group that begins like one. -/
theorem asterisk_mirrors (hP : P.Proper) (ih : P.ReadsAlike n) (hnm : n ≤ m) (hs : s.Sound)
    (hfuel : 6 * s.rest.length + 4 ≤ n + 1) {rest : List Char} (hrest : s.rest = '*' :: rest) :
    let x (n : Nat) (s : ReadState) : Reader (Option (Node Ref)) := do
      let _ ← nextExact
      match ← readVerb with
      | some node => return some node
      | none =>
        set s
        return some (← countedGroup (readBody n s.flags))
    Mirrors (x n s) (x m (P.state s)) s (P.state s) (P.Went (Option.Rel P.Copies) s) := by
  have hnumbers := hs.numbers
  rw [hrest] at hnumbers
  have hle : (s.past 1 rest).rest.length ≤ s.rest.length := by
    rw [hrest]
    exact Nat.le_succ _
  have hst : s.Onward (s.past 1 rest) :=
    ⟨hle, rfl, refersByNumber_of_cons hnumbers (by decide), hs.named⟩
  refine Mirrors.step (run_nextExact hrest) (run_nextExact_state hrest) ?_
  have hgroup {t t' : ReadState} :
      Mirrors (do set s; return some (← countedGroup (readBody n s.flags)))
        (do set (P.state s); return some (← countedGroup (readBody m s.flags))) t t'
        (P.Went (Option.Rel P.Copies) s) := by
    refine Mirrors.step (run_set t s) (run_set t' _) ?_
    exact some_mirrors hs.onward (countedGroup_mirrors ih hnm hs hfuel)
  refine (readVerb_mirrors hP hst.sound).bind ?_
  rintro found t found' t' (⟨rfl, rfl⟩ | ⟨hfound, rfl, ht⟩)
  · exact hgroup
  · cases hfound with
    | some hn => exact .pure ⟨.some hn, rfl, hst.trans ht⟩
    | none => exact hgroup

/-- What stands in parentheses after a question mark. -/
theorem marked_mirrors (hP : P.Proper) (ih : P.ReadsAlike n) (hnm : n ≤ m) (hs : s.Sound)
    (hfuel : 6 * s.rest.length + 4 ≤ n + 1) (hnumber : numberInside s.rest = false)
    {rest : List Char} (hrest : s.rest = '?' :: rest) :
    Mirrors (readParenthesis (n + 1)) (readParenthesis (m + 1)) s (P.state s)
      (P.Went (Option.Rel P.Copies) s) := by
  rw [readParenthesis, readParenthesis]
  refine Mirrors.step (run_get s) (run_get _) ?_
  have hpasted : (P.state s).rest = '?' :: (rest ++ P.tail) := rest_state_of_cons hrest
  have hlength : s.rest.length = rest.length + 1 := by rw [hrest, List.length_cons]
  have hlength' : (s.past 1 rest).rest.length = rest.length := rfl
  have hnumbers := hs.numbers
  rw [hrest] at hnumbers
  have hst : s.Onward (s.past 1 rest) :=
    ⟨hlength ▸ Nat.le_succ _, rfl, refersByNumber_of_cons hnumbers (by decide), hs.named⟩
  have hfuel' : 6 * (s.past 1 rest).rest.length + 4 ≤ n := by omega
  simp only [hrest, hpasted]
  rw [hrest] at hnumber
  refine Mirrors.step (run_nextExact hrest) (run_nextExact_state hrest) ?_
  refine Mirrors.step (run_position _) (run_position _) ?_
  rcases nextExact_cases (P := P) hst.sound with ⟨c, t, h, h', ht, hcons⟩ | ⟨hnil, h⟩
  · have hlt := ht.shorter
    have hcons : rest = c :: t.rest := hcons
    have hgo {d : Char} (hc : some c = some d) (hd : d ≠ '\\') : s.Onward t := by
      cases hc
      exact hst.trans (ht.onward hst.sound hd)
    refine Mirrors.step h h' ?_
    split
    · exact angle_mirrors hP ih hnm (hgo ‹_› (by decide)) (by omega) s.flags
    · exact wrapped_mirrors ih hnm (hgo ‹_› (by decide)) (by omega) s.flags (.look false true)
        fun _ => ⟨rfl, fun h => h⟩
    · exact wrapped_mirrors ih hnm (hgo ‹_› (by decide)) (by omega) s.flags (.look false false)
        fun _ => ⟨rfl, fun h => h⟩
    · have hst := hgo ‹_› (by decide)
      rename_i hc
      cases hc
      rw [hcons] at hnumber
      exact some_mirrors hst (ih.extension s.flags hnm hst.sound (by omega) hnumber)
    · have hst := hgo ‹_› (by decide)
      refine (skipComment_mirrors hst.sound (by rw [List.length_cons]; omega) ?_).bind ?_
      · simp only [List.length_cons, List.length_append]
        omega
      · rintro _ u _ _ ⟨-, rfl, hu⟩
        exact .pure ⟨.none, rfl, hst.trans hu⟩
    · have hst := hgo ‹_› (by decide)
      rename_i hc
      cases hc
      rw [hcons] at hnumber
      exact some_mirrors hst (ih.condition s.flags hnm hst.sound (by omega) hnumber)
    · exact wrapped_mirrors ih hnm (hgo ‹_› (by decide)) (by omega) s.flags .atomic
        fun _ => ⟨rfl, fun h => h⟩
    · have hst := hgo ‹_› (by decide)
      exact some_mirrors hst (ih.reset hnm hst.sound (by omega))
    · have hst := hgo ‹_› (by decide)
      exact some_mirrors hst (readCall_mirrors hP hst.sound _)
    · rename_i hextension _ hcondition _ _ _
      have hc : (c == 'R' || isDigit c) = false := by
        rw [hcons, numberInside] at hnumber
        · exact hnumber
        · exact fun heq => hextension (congrArg some heq)
        · exact fun heq => hcondition (congrArg some heq)
      simp only [Option.filter, hc]
      exact ih.flagsAgain_mirrors hnm hst hfuel'
  · have hpasted' : (P.state (s.past 1 rest)).rest = ')' :: P.rest := by
      rw [state, hnil]
      rfl
    exact Mirrors.step h (run_nextExact hpasted') (ih.flagsAgain_mirrors hnm hst hfuel')

theorem parenthesis_succ (hP : P.Proper) (ih : P.ReadsAlike n) (hnm : n ≤ m) (hs : s.Sound)
    (hfuel : 6 * s.rest.length + 4 ≤ n + 1) (hnumber : numberInside s.rest = false) :
    Mirrors (readParenthesis (n + 1)) (readParenthesis (m + 1)) s (P.state s)
      (P.Went (Option.Rel P.Copies) s) := by
  by_cases hmark : ∃ rest, s.rest = '?' :: rest
  · obtain ⟨rest, hrest⟩ := hmark
    exact marked_mirrors hP ih hnm hs hfuel hnumber hrest
  rw [readParenthesis, readParenthesis]
  refine Mirrors.step (run_get s) (run_get _) ?_
  by_cases hverb : ∃ rest, s.rest = '*' :: rest
  · obtain ⟨rest, hrest⟩ := hverb
    have hpasted : (P.state s).rest = '*' :: (rest ++ P.tail) := rest_state_of_cons hrest
    simp only [hrest, hpasted]
    exact asterisk_mirrors hP ih hnm hs hfuel hrest
  -- These settle the choice at the place once the one of reading alone is known.
  have hmark' := rest_ne_cons (P := P) (c := '?') (by decide) (not_exists.mp hmark)
  have hverb' := rest_ne_cons (P := P) (c := '*') (by decide) (not_exists.mp hverb)
  split
  · rename_i heq
    exact absurd ⟨_, heq⟩ hmark
  · rename_i heq
    exact absurd ⟨_, heq⟩ hverb
  · exact some_mirrors hs.onward (countedGroup_mirrors ih hnm hs hfuel)

theorem succ (hP : P.Proper) (ih : P.ReadsAlike n) : P.ReadsAlike (n + 1) := by
  have hpred {n' : Nat} (h : n + 1 ≤ n') : ∃ m, n' = m + 1 ∧ n ≤ m := ⟨n' - 1, by omega, by omega⟩
  constructor
  case alternatives =>
    intro n' s hn hs hfuel
    obtain ⟨m, rfl, hnm⟩ := hpred hn
    exact alternatives_succ ih hnm hs hfuel
  case more =>
    intro n' s hn hs hfuel
    obtain ⟨m, rfl, hnm⟩ := hpred hn
    exact more_succ hP ih hnm hs hfuel
  case sequence =>
    intro n' s q q' hn hs hfuel hq
    obtain ⟨m, rfl, hnm⟩ := hpred hn
    exact sequence_succ hP ih hnm hs hfuel hq
  case parenthesis =>
    intro n' s hn hs hfuel hnumber
    obtain ⟨m, rfl, hnm⟩ := hpred hn
    exact parenthesis_succ hP ih hnm hs hfuel hnumber
  case body =>
    intro n' s outer hn hs hfuel
    obtain ⟨m, rfl, hnm⟩ := hpred hn
    exact body_succ ih hnm hs outer hfuel
  case namedGroup =>
    intro n' s outer hn hs hfuel
    obtain ⟨m, rfl, hnm⟩ := hpred hn
    exact namedGroup_succ hP ih hnm hs outer hfuel
  case extension =>
    intro n' s outer hn hs hfuel hnumber
    obtain ⟨m, rfl, hnm⟩ := hpred hn
    exact extension_succ hP ih hnm hs outer hfuel hnumber
  case condition =>
    intro n' s outer hn hs hfuel hnumber
    obtain ⟨m, rfl, hnm⟩ := hpred hn
    exact condition_succ hP ih hnm hs outer hfuel hnumber
  case branches =>
    intro n' s hn hs hfuel
    obtain ⟨m, rfl, hnm⟩ := hpred hn
    exact branches_succ hP ih hnm hs hfuel
  case reset =>
    intro n' s hn hs hfuel
    obtain ⟨m, rfl, hnm⟩ := hpred hn
    exact reset_succ ih hnm hs hfuel
  case moreReset =>
    intro n' s initial final hn hs hfuel
    obtain ⟨m, rfl, hnm⟩ := hpred hn
    exact moreReset_succ hP ih hnm hs initial final hfuel
  case flagged =>
    intro n' s hn hs hfuel
    obtain ⟨m, rfl, hnm⟩ := hpred hn
    exact flagged_succ hP ih hnm hs hfuel

end ReadsAlike

/-- Whatever the fuel, a pasted text is read as it is read alone. -/
theorem readsAlike {P : Place} (hP : P.Proper) (n : Nat) : P.ReadsAlike n := by
  induction n with
  | zero => exact .zero P
  | succ n ih => exact ih.succ hP

end Place

end LineJoin.Pattern
