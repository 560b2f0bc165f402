import LineJoin.Proofs.Joining.Break
import LineJoin.Proofs.Joining.UnitTree
import LineJoin.Joining.Rewrite

/-!
# The tree of a rule

The pattern of a rule consists of the side before the break as its first group, the break, and the
side after the break in a look-ahead. `run_readWhole_rule` reads it as `Rule.node` whenever the two
sides are read up to the parentheses that close them; the sides of a rule without fragments are
units.
-/

namespace LineJoin

open Pattern Reader ReadState

/-- Resolving the references of a rule resolves those of its sides. -/
theorem resolve_ruleNode {ε ρ σ : Type} {f : ρ → Except ε σ} (ignoreCase : Bool) {b a : Node ρ}
    {b' a' : Node σ} (hb : b.resolve f = .ok b') (ha : a.resolve f = .ok a') :
    (Rule.node ignoreCase b a).resolve f = .ok (Rule.node ignoreCase b' a') := by
  simp only [Rule.node, Rule.breakNode, Node.resolve, hb, ha]
  rfl

/-- Units hold no references. -/
theorem resolve_unitNode {ε ρ σ : Type} (f : ρ → Except ε σ) (x : Extensions) (i : Bool) :
    (Units.node x i).resolve f = .ok (Units.node x i) := by
  rw [Units.node, Units.node, Units.branches, Units.branches]
  cases x.emoji <;> rfl

/-- The text of a side without a fragment. -/
def Units.plainText (x : Extensions) : List Char :=
  '(' :: '?' :: ':' :: ((unitText x).toList ++ [')'])

theorem Units.plainText_toList (x : Extensions) :
    (Rule.sidePattern (unitText x) none).toList = plainText x := by
  simp [Rule.sidePattern, plainText, String.toList_append]

/-- The text of a rule around its two sides. -/
def Rule.patternChars (x y : List Char) : List Char :=
  '(' :: (x ++ ')' :: (breakText.toList ++ '(' :: '?' :: '=' :: (y ++ [')'])))

theorem Rule.patternText_toList (r : Rule) (unit : String) : (r.patternText unit).toList =
    patternChars (sidePattern unit r.before).toList (sidePattern unit r.after).toList := by
  simp [patternText, patternChars, String.toList_append]

/-- The fuel for the alternatives of the side after the break. -/
def sideFuel (x y : List Char) : Nat := 6 * (Rule.patternChars x y).length + 2

theorem le_sideFuel (x y : List Char) :
    6 * x.length + 2 ≤ sideFuel x y ∧ 6 * y.length + 2 ≤ sideFuel x y := by
  simp only [sideFuel, Rule.patternChars, List.length_cons, List.length_append]
  omega

/-- The state after a group without a name has been opened. -/
def counting (s : ReadState) : ReadState :=
  { s with
    groupCount := s.groupCount + 1, openGroups := (s.groupCount + 1) :: s.openGroups,
    opened := (s.groupCount + 1) :: s.opened }

theorem run_openGroup_counting (s : ReadState) :
    (openGroup none).run s = .ok (s.groupCount + 1, counting s) := rfl

variable [CharacterNames]

namespace Rule

theorem readsElement_break : ReadsElement breakText.toList breakNode := by
  have hcarriage : ReadsElement ['\\', 'r'] fun i => .char i (.code 13) :=
    readsElement_escape ['r'] (fun _ _ h => run_readEscape_carriage h false) fun _ => rfl
  have hfeed : ReadsElement ['\\', 'n'] fun i => .char i (.code 10) :=
    readsElement_escape ['n'] (fun _ _ h => run_readEscape_feed h false) fun _ => rfl
  have hpair := readsSequence_cons (by simp) hcarriage (readsSequence_one (by simp) hfeed)
  obtain ⟨hmore, hbar, hlen⟩ := readsBranches_flatMap
    [(['\\', 'r'], [fun i => .char i (.code 13)]), (['\\', 'n'], [fun i => .char i (.code 10)])]
    (by simp [readsSequence_one, hcarriage, hfeed])
  exact readsElement_atomic (readsAlternatives_of hpair hbar hmore hlen)

theorem compile_of_read {r : Rule} {unit : String} {x y : List Char} {p : Pattern}
    (hx : (sidePattern unit r.before).toList = x) (hy : (sidePattern unit r.after).toList = y)
    (h : Pattern.read (patternChars x y) = .ok p) : r.compile unit = .ok p := by
  simp only [compile, patternText_toList, hx, hy, h]

theorem compile_of_fault {r : Rule} {unit : String} {x y : List Char} {e : Fault}
    (hx : (sidePattern unit r.before).toList = x) (hy : (sidePattern unit r.after).toList = y)
    (h : Pattern.read (patternChars x y) = .error e) :
    r.compile unit = .error ⟨r, e, patternChars x y⟩ := by
  simp only [compile, patternText_toList, hx, hy, h]

end Rule

section Reading

variable {x y : List Char} {flags : Flags}

/-- Where the side before the break begins. -/
def beforeStart (flags : Flags) (x y : List Char) : ReadState :=
  { rest := x ++ ')' :: (Rule.breakText.toList ++ '(' :: '?' :: '=' :: (y ++ [')'])), position := 1,
    skips := flags.verbose, flags, globalFlags := flags, groupCount := 1, groupNames := [],
    openGroups := [1], opened := [1] }

/-- The state before the look-ahead, when the side before the break has been read. -/
def beforeAhead (flags : Flags) (y : List Char) (t : ReadState) : ReadState :=
  { t with
    rest := '(' :: '?' :: '=' :: (y ++ [')']),
    position := t.position + 1 + Rule.breakText.toList.length, flags, skips := flags.verbose,
    openGroups := t.openGroups.drop 1 }

/-- Where the side after the break begins. -/
def afterStart (flags : Flags) (y : List Char) (t : ReadState) : ReadState :=
  (beforeAhead flags y t).past 3 (y ++ [')'])

theorem run_readParenthesis_open {s : ReadState} {rest : List Char} (hs : s.rest = '(' :: rest)
    (fuel : Nat) :
    (readParenthesis (fuel + 1)).run s =
      (do return some (← countedGroup (readBody fuel s.flags))).run s := by
  rw [readParenthesis, run_bind_ok (run_get s), hs]
  rfl

theorem run_readParenthesis_counted {s t : ReadState} {fuel : Nat} {rest rest' : List Char}
    {n : Node Ref} (hs : s.rest = '(' :: rest)
    (hread : (readAlternatives fuel).run (counting s) = .ok (n, t))
    (ht : t.rest = ')' :: rest') :
    (readParenthesis (fuel + 2)).run s =
      .ok (some (.group (s.groupCount + 1) n), { t with
        rest := rest', position := t.position + 1, flags := s.flags, skips := s.flags.verbose,
        openGroups := t.openGroups.drop 1 }) := by
  have hclose : t.Sees ')' rest' := sees_visible ht (by decide)
  have hbody : (readBody (fuel + 1) s.flags).run (counting s) =
      .ok (n, { t.past 1 rest' with flags := s.flags, skips := s.flags.verbose }) := by
    rw [readBody, run_bind_ok hread, run_bind_ok (run_expect hclose)]
    rfl
  rw [run_readParenthesis_open hs, countedGroup, bind_assoc,
    run_bind_ok (run_openGroup_counting s), bind_assoc, run_bind_ok hbody]
  rfl

theorem run_readParenthesis_counted_error {s : ReadState} {fuel : Nat} {rest : List Char}
    {e : Interrupt} (hs : s.rest = '(' :: rest)
    (hread : (readAlternatives fuel).run (counting s) = .error e) :
    (readParenthesis (fuel + 2)).run s = .error e := by
  have hbody : (readBody (fuel + 1) s.flags).run (counting s) = .error e := by
    rw [readBody]
    exact run_bind_error hread
  rw [run_readParenthesis_open hs, countedGroup, bind_assoc,
    run_bind_ok (run_openGroup_counting s), bind_assoc]
  exact run_bind_error hbody

section Sides

variable {b a : Node Ref} {t u : ReadState} {x' : List Char} {e : Interrupt} (hx : x = '(' :: x')

include hx

theorem run_readWhole_before_error
    (hbefore : (readAlternatives (sideFuel x y + 2)).run (beforeStart flags x y) = .error e) :
    readWhole.run (.start (Rule.patternChars x y) flags) = .error e := by
  let s : ReadState := .start (Rule.patternChars x y) flags
  have hinside : (s.past 1 (x ++ ')' :: (Rule.breakText.toList ++
      '(' :: '?' :: '=' :: (y ++ [')'])))).rest = '(' :: (x' ++ ')' ::
        (Rule.breakText.toList ++ '(' :: '?' :: '=' :: (y ++ [')']))) := by
    change x ++ _ = _
    rw [hx]
    rfl
  have hsees : s.Sees '(' (x ++ ')' :: (Rule.breakText.toList ++
      '(' :: '?' :: '=' :: (y ++ [')']))) := sees_visible rfl (by decide)
  have hparenthesis := run_readParenthesis_counted_error hinside hbefore
  refine run_readWhole_error ?_
  change (readSequence (sideFuel x y + 5) {}).run s = .error e
  rw [readSequence, run_bind_ok (run_get s), run_bind_ok (run_next hsees)]
  exact run_bind_error hparenthesis

/-- A rule is read up to the look-ahead. -/
theorem run_readSequence_ahead
    (hbefore : (readAlternatives (sideFuel x y + 2)).run (beforeStart flags x y) = .ok (b, t))
    (ht : t.rest = ')' :: (Rule.breakText.toList ++ '(' :: '?' :: '=' :: (y ++ [')']))) :
    (readSequence (sideFuel x y + 5) {}).run (.start (Rule.patternChars x y) flags) =
      (readSequence (sideFuel x y + 3) ⟨[Rule.breakNode flags.ignoreCase, .group 1 b], true⟩).run
        (beforeAhead flags y t) := by
  let s : ReadState := .start (Rule.patternChars x y) flags
  let inside := s.past 1 (x ++ ')' :: (Rule.breakText.toList ++ '(' :: '?' :: '=' :: (y ++ [')'])))
  have hinside : inside.rest = '(' :: (x' ++ ')' ::
      (Rule.breakText.toList ++ '(' :: '?' :: '=' :: (y ++ [')']))) := by
    change x ++ _ = _
    rw [hx]
    rfl
  have hgroup := run_readParenthesis_counted (s := inside) hinside
    (n := b) (t := t) hbefore ht
  let s1 : ReadState := { t with
    rest := Rule.breakText.toList ++ '(' :: '?' :: '=' :: (y ++ [')']),
    position := t.position + 1, flags, skips := flags.verbose, openGroups := t.openGroups.drop 1 }
  have hbreak := Rule.readsElement_break (sideFuel x y + 3) ⟨[.group 1 b], true⟩ s1
    ('(' :: '?' :: '=' :: (y ++ [')'])) (by
      have hlen : Rule.breakText.toList.length ≤ (Rule.patternChars x y).length := by
        simp only [Rule.patternChars, List.length_cons, List.length_append]
        omega
      simp only [sideFuel]
      omega) rfl rfl
  rw [run_readSequence_parenthesis (s := s) rfl hgroup]
  exact hbreak

theorem run_readWhole_after_error
    (hbefore : (readAlternatives (sideFuel x y + 2)).run (beforeStart flags x y) = .ok (b, t))
    (ht : t.rest = ')' :: (Rule.breakText.toList ++ '(' :: '?' :: '=' :: (y ++ [')'])))
    (hafter : (readAlternatives (sideFuel x y)).run (afterStart flags y t) = .error e) :
    readWhole.run (.start (Rule.patternChars x y) flags) = .error e := by
  have hsequence := run_readSequence_ahead hx hbefore ht
  let s := beforeAhead flags y t
  have hbody : (readBody (sideFuel x y + 1) flags).run (afterStart flags y t) = .error e := by
    rw [readBody]
    exact run_bind_error hafter
  have hahead := (run_readParenthesis_ahead (sideFuel x y + 1)
    (s := s.past 1 ('?' :: '=' :: (y ++ [')']))) rfl).trans (run_bind_error hbody)
  have hsees : s.Sees '(' ('?' :: '=' :: (y ++ [')'])) := sees_visible rfl (by decide)
  have hfault : (readSequence (sideFuel x y + 3)
      ⟨[Rule.breakNode flags.ignoreCase, .group 1 b], true⟩).run s = .error e := by
    rw [readSequence, run_bind_ok (run_get s), run_bind_ok (run_next hsees)]
    exact run_bind_error hahead
  exact run_readWhole_error (hsequence.trans hfault)

/-- The whole pattern of a rule is read as its tree once both sides are read. -/
theorem run_readWhole_rule
    (hbefore : (readAlternatives (sideFuel x y + 2)).run (beforeStart flags x y) = .ok (b, t))
    (ht : t.rest = ')' :: (Rule.breakText.toList ++ '(' :: '?' :: '=' :: (y ++ [')'])))
    (hafter : (readAlternatives (sideFuel x y)).run (afterStart flags y t) = .ok (a, u))
    (hu : u.rest = [')']) :
    ∃ v, readWhole.run (.start (Rule.patternChars x y) flags) =
        .ok (Rule.node flags.ignoreCase b a, v) ∧
      v.groupCount = u.groupCount ∧ v.groupNames = u.groupNames ∧ v.opened = u.opened := by
  have hsequence := run_readSequence_ahead hx hbefore ht
  let s2 := beforeAhead flags y t
  have hclose : u.Sees ')' [] := sees_visible hu (by decide)
  let v : ReadState := { u.past 1 [] with flags, skips := flags.verbose }
  have hbody : (readBody (sideFuel x y + 1) flags).run (afterStart flags y t) = .ok (a, v) := by
    rw [readBody, run_bind_ok hafter, run_bind_ok (run_expect hclose)]
    rfl
  have hahead := (run_readParenthesis_ahead (sideFuel x y + 1)
    (s := s2.past 1 ('?' :: '=' :: (y ++ [')']))) rfl).trans ((run_bind_ok hbody).trans rfl)
  rw [run_readSequence_parenthesis (s := s2) rfl hahead] at hsequence
  exact ⟨v, run_readWhole_finish (hsequence.trans (run_readSequence_finish rfl _ _)) rfl, rfl, rfl, rfl⟩

end Sides

end Reading

/-- A pattern that is one element. -/
theorem run_readWhole_element {text : List Char} {n : Bool → Node Ref} (h : ReadsElement text n)
    (flags : Flags) :
    ∃ v, readWhole.run (.start text flags) = .ok (n flags.ignoreCase, v) := by
  let s : ReadState := .start text flags
  let v := s.past text.length []
  refine ⟨v, run_readWhole_finish ?_ rfl⟩
  rw [h (6 * text.length + 6) {} s [] (by omega) rfl (List.append_nil text).symm]
  exact run_readSequence_finish rfl _ _

/-- A rule makes a pattern if both of its sides are read where no flags are set. -/
theorem Rule.compile_of_sides {r : Rule} {x : Extensions} {y z : List Char}
    (hy : (sidePattern (Units.unitText x) r.before).toList = '(' :: y)
    (hz : (sidePattern (Units.unitText x) r.after).toList = '(' :: z)
    {b a : Node Ref} (hb : ReadsBare ('(' :: y) b) (ha : ReadsBare ('(' :: z) a)
    {b' a' : Node Nat} (hb' : ∀ f : Ref → Except Fault Nat, b.resolve f = .ok b')
    (ha' : ∀ f : Ref → Except Fault Nat, a.resolve f = .ok a') :
    ∃ p, r.compile (Units.unitText x) = .ok p ∧ p.root = Rule.node false b' a' := by
  obtain ⟨hbeforeFuel, hafterFuel⟩ := le_sideFuel ('(' :: y) ('(' :: z)
  let t := (beforeStart {} ('(' :: y) ('(' :: z)).past ('(' :: y).length
    (')' :: (Rule.breakText.toList ++ '(' :: '?' :: '=' :: (('(' :: z) ++ [')'])))
  have hbefore := hb (sideFuel ('(' :: y) ('(' :: z) + 2) (beforeStart {} ('(' :: y) ('(' :: z)) _
    (by omega) ⟨rfl, rfl⟩ rfl
  have hafter := ha (sideFuel ('(' :: y) ('(' :: z)) (afterStart {} ('(' :: z) t) [] (by omega)
    ⟨rfl, rfl⟩ rfl
  obtain ⟨v, hwhole, -⟩ := run_readWhole_rule rfl hbefore rfl hafter rfl
  have hroot := resolve_ruleNode false (hb' (Ref.number v)) (ha' (Ref.number v))
  exact ⟨_, compile_of_read hy hz (read_of_readWhole hwhole hroot), rfl⟩

theorem Rule.compile_of_elements {r : Rule} {x : Extensions} {y z : List Char}
    (hy : (sidePattern (Units.unitText x) r.before).toList = '(' :: y)
    (hz : (sidePattern (Units.unitText x) r.after).toList = '(' :: z)
    {b a : Bool → Node Ref} (hb : ReadsElement ('(' :: y) b) (ha : ReadsElement ('(' :: z) a)
    {b' a' : Node Nat} (hb' : ∀ f : Ref → Except Fault Nat, (b false).resolve f = .ok b')
    (ha' : ∀ f : Ref → Except Fault Nat, (a false).resolve f = .ok a') :
    ∃ p, r.compile (Units.unitText x) = .ok p ∧ p.root = Rule.node false b' a' :=
  compile_of_sides hy hz (hb.bare (List.cons_ne_nil _ _)) (ha.bare (List.cons_ne_nil _ _)) hb' ha'

variable [KnowsUnits]

theorem readsElement_unit (x : Extensions) : ReadsElement (Units.plainText x) (Units.node x) :=
  readsElement_group (Units.readsAlternatives_unitText x)

/-- A side without a fragment is read as a unit. -/
theorem readsAlternatives_unit (x : Extensions) :
    ReadsAlternatives (Units.plainText x) [Units.node x] :=
  (readsElement_unit x).alternatives (List.cons_ne_nil _ _)

/-- The recogniser of units is the tree of a unit. -/
theorem recogniser_root (x : Extensions) :
    ∃ p, Units.recogniser x = .ok p ∧ p.root = Units.node x false := by
  obtain ⟨v, hwhole⟩ := run_readWhole_element (readsElement_unit x) {}
  have hread := read_of_readWhole hwhole (resolve_unitNode (Ref.number v) x false)
  rw [← Units.plainText_toList] at hread
  exact ⟨_, hread, rfl⟩

/-- The rule without fragments asks for a unit on both sides. -/
theorem compile_units (x : Extensions) :
    ∃ p, Rule.compile {} (Units.unitText x) = .ok p ∧
      p.root = Rule.node false (Units.node x false) (Units.node x false) := by
  obtain ⟨rest, hrest⟩ : ∃ rest, Units.plainText x = '(' :: rest := ⟨_, rfl⟩
  have hbefore : (Rule.sidePattern (Units.unitText x) ({} : Rule).before).toList =
      Units.plainText x := Units.plainText_toList x
  have hafter : (Rule.sidePattern (Units.unitText x) ({} : Rule).after).toList =
      Units.plainText x := Units.plainText_toList x
  have hread := readsElement_unit x
  have hresolve : ∀ f : Ref → Except Fault Nat,
      (Units.node x false).resolve f = .ok (Units.node x false) :=
    fun f => resolve_unitNode f x false
  rw [hrest] at hbefore hafter hread
  exact Rule.compile_of_elements hbefore hafter hread hread hresolve hresolve

end LineJoin
