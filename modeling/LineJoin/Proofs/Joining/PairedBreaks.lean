import LineJoin.Proofs.Joining.LineTests

/-!
# A carriage return and the line feed after it

A break is taken as a whole, so no match begins a break with a carriage return and leaves the line
feed after it. But a class before the break may take the carriage return itself, as the unit next to
the line feed, and then the line feed goes alone. `PairTrimmed` says how breaks are deleted in both
cases: pairs are kept or dropped whole unless the fragment before the break takes carriage returns.
The classes of the rule may take any characters, so what a match takes before its break can be a
break character, and a match can begin at the second half of a pair that has been kept.
-/

namespace LineJoin

open Pattern

/-- The second text is the first one without some line breaks. A carriage return and a line feed
after it stay or go together; if `parts` is set the line feed may also go alone. -/
inductive PairTrimmed (parts : Bool) : List Char → List Char → Prop where
  | nil : PairTrimmed parts [] []
  | keep {c : Char} {text out : List Char} (h : c = '\r' → text.head? ≠ some '\n')
      (rest : PairTrimmed parts text out) : PairTrimmed parts (c :: text) (c :: out)
  | keepPair {text out : List Char} (rest : PairTrimmed parts text out) :
      PairTrimmed parts ('\r' :: '\n' :: text) ('\r' :: '\n' :: out)
  | drop {b text out : List Char} (first : IsBreak b text) (rest : PairTrimmed parts text out) :
      PairTrimmed parts (b ++ text) out
  | dropFeed {text out : List Char} (h : parts = true) (rest : PairTrimmed parts text out) :
      PairTrimmed parts ('\r' :: '\n' :: text) ('\r' :: out)

namespace PairTrimmed

variable {parts : Bool} {text out : List Char}

theorem keepAll {w : List Char} (hw : ∀ c ∈ w, isBreakChar c = false)
    (h : PairTrimmed parts text out) : PairTrimmed parts (w ++ text) (w ++ out) := by
  induction w with
  | nil => exact h
  | cons c w ih =>
    obtain ⟨hc, hw⟩ := List.forall_mem_cons.mp hw
    refine .keep ?_ (ih hw)
    rintro rfl
    cases hc

/-- A character stays and the break after it goes. -/
theorem keep_drop {c : Char} {b : List Char} (hc : c = '\r' → parts = true) (hb : IsBreak b text)
    (h : PairTrimmed parts text out) : PairTrimmed parts (c :: (b ++ text)) (c :: out) := by
  cases hb with
  | feed =>
    by_cases hr : c = '\r'
    · exact hr ▸ .dropFeed (hc hr) h
    · exact .keep (fun h => absurd h hr) (.drop (.feed text) h)
  | pair => exact .keep (fun _ => by simp) (.drop (.pair text) h)
  | carriage _ hn => exact .keep (fun _ => by simp) (.drop (.carriage text hn) h)

end PairTrimmed

namespace Rule

variable {x : Extensions} {side : Option String} {n : Node Nat}

/-- A side takes a text without breaks or one character that its fragment takes. -/
theorem ClassTree.matches_cases (h : ClassTree x side n) {w : List Char} (hw : n.Matches w) :
    (w ≠ [] ∧ ∀ c ∈ w, isBreakChar c = false) ∨ ∃ c, fragmentTakes side c = true ∧ w = [c] := by
  refine ((h.texts w).mp hw).imp_left fun hunit => ?_
  have hunit := (isUnit_iff_unitText x w).mp hunit
  refine ⟨?_, hunit.isBreakChar⟩
  obtain ⟨c, t, rfl, -⟩ := hunit.exists_first
  exact List.cons_ne_nil c t

end Rule

section Scanning

variable {x : Extensions} {r : Rule} {b a : Node Nat}

/-- From a place on pairs are kept or dropped whole, and a line feed at the place itself stays. -/
theorem pairTrimmed_of_scan (hb : Rule.ClassTree x r.before b) (ha : Rule.ClassTree x r.after a)
    {origin : Nat} {advance : Bool} {c : Cursor} {out : List Char}
    (h : Scan (Rule.node false b a) origin advance c out) :
    PairTrimmed (fragmentTakes r.before '\r') c.after out ∧
      ∀ t, c.after = '\n' :: t →
        ∃ u, out = '\n' :: u ∧ PairTrimmed (fragmentTakes r.before '\r') t u := by
  induction h with
  | done _ stop =>
    rw [stop]
    exact ⟨.nil, fun t ht => nomatch ht⟩
  | @skip _ _ c d x out _ next _ ih =>
    rw [next.after]
    constructor
    · by_cases hpair : x = '\r' ∧ d.after.head? = some '\n'
      · obtain ⟨rfl, hhead⟩ := hpair
        obtain ⟨t, ht⟩ := List.head?_eq_some_iff.mp hhead
        obtain ⟨u, rfl, hu⟩ := ih.2 t ht
        rw [ht]
        exact .keepPair hu
      · exact .keep (fun hx hhead => hpair ⟨hx, hhead⟩) ih.1
    · intro t ht
      obtain ⟨rfl, rfl⟩ := List.cons.inj ht
      exact ⟨out, rfl, ih.1⟩
  | @hit origin advance c e others out found _ ih =>
    have he : e ∈ (Rule.node false b a).matchesAt origin advance c := by
      rw [found]
      exact List.mem_cons_self
    obtain ⟨w, k, hw, hce, hbreak, -, hmemory⟩ :=
      (mem_ruleNode_plain hb.plain ha.plain).mp (Node.mem_matchesAt.mp he).1
    have hfirst : e.captured? 1 = some w := by
      rw [State.captured?, hmemory]
      rfl
    rw [hce.after, hfirst, Option.getD_some, List.append_assoc]
    rcases hb.matches_cases hw with ⟨hne, hplain⟩ | ⟨y, hy, rfl⟩
    · refine ⟨.keepAll hplain (.drop hbreak ih.1), fun t ht => ?_⟩
      obtain ⟨z, w, rfl⟩ := List.exists_cons_of_ne_nil hne
      obtain ⟨rfl, -⟩ := List.cons.inj ht
      cases hplain '\n' List.mem_cons_self
    · rw [List.singleton_append, List.singleton_append]
      refine ⟨.keep_drop (fun hr => hr ▸ hy) hbreak ih.1, fun t ht => ?_⟩
      obtain ⟨rfl, rfl⟩ := List.cons.inj ht
      exact ⟨out, rfl, .drop hbreak ih.1⟩

end Scanning

/-- A single rule with bracket classes, whatever these take, keeps or deletes a carriage return and
the line feed after it together, unless its fragment before the break takes carriage returns: then
the line feed can also be deleted alone. -/
theorem removeBreaks_pairTrimmed {data : Value} {o : Options} {records : List Record} {r : Rule}
    (ho : (Options.ofValue data).outcome = (.ok o, records)) (hrule : o.rules = [r])
    (hbefore : BracketSide r.before) (hafter : BracketSide r.after) (text : String) :
    ∃ out, (removeBreaks (.str text) data).outcome = (.ok out, records) ∧
      PairTrimmed (fragmentTakes r.before '\r') text.toList out.toList := by
  obtain ⟨b, hb⟩ := Rule.exists_classTree o.extensions hbefore
  obtain ⟨a, ha⟩ := Rule.exists_classTree o.extensions hafter
  obtain ⟨p, hp, hroot⟩ := Rule.compile_of_classTrees hb ha
  have hps : compileRules o = .ok [p] := by
    rw [compileRules, hrule, List.mapM_cons, hp]
    rfl
  refine ⟨_, removeBreaks_outcome ho hps, ?_⟩
  have hstart : p.root.setsStart = false := by
    rw [hroot]
    exact ruleNode_setsStart false hb.plain.setsStart ha.plain.setsStart
  have hscan := scan_keepFirstGroup hstart text.toList
  rw [hroot] at hscan
  rw [rewriteString, String.toList_ofList]
  exact (pairTrimmed_of_scan hb ha hscan).1

theorem isClass_ascii : IsClass "[\\x00-\\x7F]".toList (.set true [.span 0 127]) :=
  ⟨['\\', 'x', '0', '0', '-', '\\', 'x', '7', 'F'],
    (ReadState.start ['\\', 'x', '0', '0', '-', '\\', 'x', '7', 'F', ']'] {}).past 10 [],
    String.toList_ofList, by cbv, rfl⟩

/-- The class of the ASCII characters takes the carriage return of a pair at the start of a
text as the unit before the line feed, and the pair is torn apart. -/
theorem removeBreaks_pairTrimmed_torn :
    let rule : Rule := ⟨some "[\\x00-\\x7F]", some "[\\x00-\\x7F]"⟩
    let data : Value := .dict [(.str "additionalRegexpPairs", .list [.rule rule])]
    let o : Options := { additionalRules := [rule] }
    (Options.ofValue data).outcome = (.ok o, []) ∧ o.rules = [rule] ∧ BracketSide rule.before ∧
      BracketSide rule.after ∧ fragmentTakes rule.before '\r' = true ∧
      (removeBreaks (.str "\r\na") data).outcome = (.ok "\ra", []) ∧
      PairTrimmed true "\r\na".toList "\ra".toList := by
  intro rule data o
  have ho : (Options.ofValue data).outcome = (.ok o, []) := by rfl
  have hne : "[\\x00-\\x7F]" ≠ "" := by decide
  have hside : BracketSide (some "[\\x00-\\x7F]") := bracketSide_of_isClass isClass_ascii
  have htakes : fragmentTakes rule.before '\r' = true := by
    rw [fragmentTakes_class hne isClass_ascii]
    decide
  have htree := Rule.classTree_class {} hne isClass_ascii
  obtain ⟨p, hp, hroot⟩ := Rule.compile_of_classTrees (r := rule) htree htree
  have hps : compileRules o = .ok [p] := by
    rw [compileRules, show o.rules = [rule] from rfl, List.mapM_cons, hp]
    rfl
  have hout : p.keepFirstGroup ['\r', '\n', 'a'] = ['\r', 'a'] := by
    change Pattern.keepFirstGroup ⟨p.root, 0, []⟩ _ = _
    rw [hroot]
    decide +kernel
  have hresult : (removeBreaks (.str "\r\na") data).outcome = (.ok "\ra", []) := by
    rw [removeBreaks_outcome ho hps, rewriteString,
      show "\r\na".toList = ['\r', '\n', 'a'] from String.toList_ofList]
    exact congrArg (fun t => (Except.ok (String.ofList t), [])) hout
  obtain ⟨out, hgiven, htrimmed⟩ := removeBreaks_pairTrimmed ho rfl hside hside "\r\na"
  rw [hresult] at hgiven
  obtain rfl := Except.ok.inj (Prod.mk.inj hgiven).1
  rw [htakes] at htrimmed
  exact ⟨ho, rfl, hside, hside, htakes, hresult, htrimmed⟩

end LineJoin
