import LineJoin.Proofs.Chars.Variant
import LineJoin.Proofs.Pattern.Scan

/-!
# Line breaks in a replacement

The pattern of a rule is read as the tree `Rule.node`: the first group takes what stands before a
break, the break is taken as a whole, and what follows it is only looked at. Whatever the two sides
are, replacing the matches of such a tree deletes line breaks and changes nothing else; `Trimmed`
says which line breaks can be deleted.
-/

namespace LineJoin

open Pattern

def isBreakChar (c : Char) : Bool := c == '\r' || c == '\n'

/-- A line break and what follows it. A carriage return and a line feed after it are one break. -/
inductive IsBreak : List Char → List Char → Prop where
  | pair (rest : List Char) : IsBreak ['\r', '\n'] rest
  | feed (rest : List Char) : IsBreak ['\n'] rest
  | carriage (rest : List Char) (h : rest.head? ≠ some '\n') : IsBreak ['\r'] rest

/-- The second text is the first one without some line breaks. -/
inductive Trimmed : List Char → List Char → Prop where
  | nil : Trimmed [] []
  | keep (c : Char) {text out : List Char} (rest : Trimmed text out) :
      Trimmed (c :: text) (c :: out)
  | drop {b text out : List Char} (first : IsBreak b text) (rest : Trimmed text out) :
      Trimmed (b ++ text) out

theorem Trimmed.keepAll (w : List Char) {text out : List Char} (h : Trimmed text out) :
    Trimmed (w ++ text) (w ++ out) := by
  induction w with
  | nil => exact h
  | cons c w ih => exact .keep c ih

namespace Rule

/-- The tree of `Rule.breakText`. -/
def breakNode {ρ : Type} (ignoreCase : Bool) : Node ρ :=
  .atomic (.alt (.seq (.char ignoreCase (.code 13)) (.char ignoreCase (.code 10)))
    (.alt (.char ignoreCase (.code 13)) (.char ignoreCase (.code 10))))

/-- The tree of a rule with given trees for its two sides. -/
def node {ρ : Type} (ignoreCase : Bool) (before after : Node ρ) : Node ρ :=
  .seq (.group 1 before) (.seq (breakNode ignoreCase) (.look false true after))

end Rule

theorem caseVariants_contains {a : Nat} (h : IgnoresCase (Span.covers [Span.single a])) (c : Nat) :
    (caseVariants c).contains a = (a == c) := by
  have hone (x : Nat) : Span.covers [Span.single a] x = (a == x) := by
    rw [Bool.eq_iff_iff, beq_iff_eq, Span.covers_iff]
    simp only [Span.single, List.mem_singleton, exists_eq_left]
    omega
  rw [List.contains_eq_any_beq, ← hone, ← h.any_variant]
  congr 1
  funext x
  exact (hone x).symm

theorem toNat_beq (c x : Char) : (x.toNat == c.toNat) = (c == x) := by
  rw [Bool.eq_iff_iff, beq_iff_eq, beq_iff_eq]
  exact ⟨fun h => (Char.toNat_inj.mp h).symm, fun h => h ▸ rfl⟩

/-- A control character has no variants, so regard to case makes no difference. -/
theorem acceptsChar_control (ignoreCase : Bool) {x : Char} (hx : x.toNat < 0x20) (c : Char) :
    acceptsChar ignoreCase (.code x.toNat) c = (c == x) := by
  have hclear : letterless [Span.single x.toNat] = true := by
    simp [letterless, letterZones, fullWidth, Span.within, Span.apart, Span.single]
    omega
  cases ignoreCase with
  | false => exact toNat_beq c x
  | true => exact (caseVariants_contains (ignoresCase_covers hclear) _).trans (toNat_beq c x)

theorem acceptsChar_carriage (ignoreCase : Bool) (c : Char) :
    acceptsChar ignoreCase (.code 13) c = (c == '\r') :=
  acceptsChar_control ignoreCase (x := '\r') (by decide) c

theorem acceptsChar_feed (ignoreCase : Bool) (c : Char) :
    acceptsChar ignoreCase (.code 10) c = (c == '\n') :=
  acceptsChar_control ignoreCase (x := '\n') (by decide) c

theorem ways_breakNode (calls : CallWays) (ignoreCase : Bool) (s : State) :
    (Rule.breakNode ignoreCase).ways calls false s = match s.cursor.after with
      | [] => []
      | x :: rest =>
        if x = '\r' then match rest with
          | '\n' :: rest' => [⟨(s.cursor.past x rest).past '\n' rest', s.memory⟩]
          | _ => [⟨s.cursor.past x rest, s.memory⟩]
        else if x = '\n' then [⟨s.cursor.past x rest, s.memory⟩]
        else [] := by
  obtain ⟨⟨before, after, index⟩, memory⟩ := s
  have hcr := acceptsChar_carriage ignoreCase
  have hlf := acceptsChar_feed ignoreCase
  cases after with
  | nil => simp [Rule.breakNode, Node.ways, State.take?, Cursor.forward?]
  | cons x rest =>
    by_cases hr : x = '\r'
    · cases rest with
      | nil => simp [Rule.breakNode, Node.ways, State.take?, Cursor.forward?, hcr, hr, Cursor.past]
      | cons y rest =>
        by_cases hn : y = '\n'
        · simp [Rule.breakNode, Node.ways, State.take?, Cursor.forward?, hcr, hlf, hr, hn,
            Cursor.past]
        · simp [Rule.breakNode, Node.ways, State.take?, Cursor.forward?, hcr, hlf, hr, hn,
            Cursor.past]
    · by_cases hn : x = '\n'
      · simp [Rule.breakNode, Node.ways, State.take?, Cursor.forward?, hcr, hlf, hn, Cursor.past]
      · simp [Rule.breakNode, Node.ways, State.take?, Cursor.forward?, hcr, hlf, hr, hn]

/-- A break is taken as a whole and in one way. -/
theorem mem_ways_breakNode {calls : CallWays} {ignoreCase : Bool} {s e : State} :
    e ∈ (Rule.breakNode ignoreCase).ways calls false s ↔
      ∃ b, IsBreak b e.cursor.after ∧ s.cursor.Takes b e.cursor ∧ e.memory = s.memory := by
  rw [ways_breakNode]
  constructor
  · intro he
    cases ha : s.cursor.after with
    | nil => simp [ha] at he
    | cons x rest =>
      have hx := Cursor.takes_past ha
      simp only [ha] at he
      split at he
      · rename_i hr
        subst hr
        split at he
        · obtain rfl := List.mem_singleton.mp he
          exact ⟨_, .pair _, hx.trans (Cursor.takes_past rfl), rfl⟩
        · rename_i hrest
          obtain rfl := List.mem_singleton.mp he
          refine ⟨_, .carriage _ ?_, hx, rfl⟩
          intro hn
          obtain ⟨rest', hr⟩ := List.head?_eq_some_iff.mp hn
          exact hrest rest' hr
      · split at he
        · rename_i hn
          obtain rfl := List.mem_singleton.mp he
          exact ⟨_, .feed _, hn ▸ hx, rfl⟩
        · cases he
  · rintro ⟨b, hb, ht, hmemory⟩
    have ha := ht.after
    cases hb with
    | pair =>
      rw [ha]
      have hd := (Cursor.takes_past ha).trans (Cursor.takes_past (x := '\n') rfl)
      exact List.mem_singleton.mpr (State.eq_of_takes ht hd hmemory)
    | feed =>
      rw [ha]
      exact List.mem_singleton.mpr (State.eq_of_takes ht (Cursor.takes_past ha) hmemory)
    | carriage _ h =>
      rw [ha]
      have he := State.eq_of_takes ht (Cursor.takes_past ha) hmemory
      simp only [List.singleton_append, if_true]
      split
      · rename_i rest' hr
        rw [hr] at h
        exact absurd rfl h
      · exact List.mem_singleton.mpr he

/-- What a match of a rule takes: a text for the first group and a break. -/
theorem ruleNode_match {calls : CallWays} {ignoreCase : Bool} {before after : Node Nat}
    (hafter : after.setsGroup 1 = false) {s : State} (hs : s.cursor.Placed) {e : State}
    (he : e ∈ (Rule.node ignoreCase before after).ways calls false s) :
    ∃ w b, s.cursor.Takes (w ++ b) e.cursor ∧ IsBreak b e.cursor.after ∧
      e.captured? 1 = some w := by
  obtain ⟨m, hm, he⟩ := Node.mem_ways_seq.mp he
  obtain ⟨x, hx, rfl⟩ := List.mem_map.mp hm
  obtain ⟨d, hd, he⟩ := Node.mem_ways_seq.mp he
  obtain ⟨w, hw⟩ := Node.ways_takes hx hs
  obtain ⟨b, hb, ht, hmemory⟩ := mem_ways_breakNode.mp hd
  obtain ⟨hcursor, hkept⟩ := Node.mem_ways_look he
  have hd1 : d.captured? 1 = some w := by
    rw [State.captured?, hmemory]
    exact (State.captured?_capture x 1 1 _).trans (by rw [if_pos rfl, hw.between])
  rw [hcursor]
  refine ⟨w, b, hw.trans ht, hb, ?_⟩
  rcases hkept with hkept | ⟨y, hy, hkept⟩
  · rw [State.captured?, hkept]
    exact hd1
  · rw [State.captured?, hkept]
    exact (Node.ways_captured? hafter false d y hy).trans hd1

theorem trimmed_of_scan {ignoreCase : Bool} {before after : Node Nat}
    (hafter : after.setsGroup 1 = false) {origin : Nat} {advance : Bool} {c : Cursor}
    {out : List Char} (hc : c.Placed)
    (h : Scan (Rule.node ignoreCase before after) origin advance c out) :
    Trimmed c.after out := by
  induction h with
  | done _ stop => exact stop ▸ .nil
  | skip _ next _ ih =>
    rw [next.after]
    exact .keep _ (ih (next.placed hc))
  | @hit origin advance c e others out found _ ih =>
    have he : e ∈ (Rule.node ignoreCase before after).matchesAt origin advance c := by
      rw [found]
      exact List.mem_cons_self
    obtain ⟨w, b, ht, hb, hw⟩ := ruleNode_match hafter hc (Node.mem_matchesAt.mp he).1
    have ht : c.Takes (w ++ b) e.cursor := ht
    rw [ht.after, hw, List.append_assoc]
    exact .keepAll w (.drop hb (ih (ht.placed hc)))

/-- A rule says where the text that is replaced begins only if one of its sides does. -/
theorem ruleNode_setsStart (ignoreCase : Bool) {before after : Node Nat}
    (hbefore : before.setsStart = false) (hafter : after.setsStart = false) :
    (Rule.node ignoreCase before after).setsStart = false := by
  simp [Rule.node, Rule.breakNode, Node.setsStart, hbefore, hafter]

/-- Replacing by the first group deletes line breaks and nothing else, whatever stands on the two
sides of the rule, as long as nothing after the break captures the first group again and all of each
match is replaced. -/
theorem keepFirstGroup_trimmed (ignoreCase : Bool) (before after : Node Nat) (groups : Nat)
    (source text : List Char) (hafter : after.setsGroup 1 = false)
    (hbefore : before.setsStart = false) (hafterStart : after.setsStart = false) :
    Trimmed text
      (Pattern.keepFirstGroup ⟨Rule.node ignoreCase before after, groups, source⟩ text) :=
  trimmed_of_scan hafter (Cursor.placed_start text)
    (scan_keepFirstGroup (p := ⟨Rule.node ignoreCase before after, groups, source⟩)
      (ruleNode_setsStart ignoreCase hbefore hafterStart) text)

/-- A doubled character or a place after a line feed before the break, a captured character after
it: the break of two characters and one of the two line feeds go. -/
theorem keepFirstGroup_trimmed_doubled :
    let before : Node Nat := .alt (.seq (.group 2 (.char false .any)) (.backref false 2))
      (.look true true (.char false (.code 10)))
    let after : Node Nat := .group 3 (.char false .anyInLine)
    let text := ['a', 'a', '\r', '\n', 'b', '\n', '\n', 'c']
    let out := Pattern.keepFirstGroup ⟨Rule.node false before after, 3, []⟩ text
    after.setsGroup 1 = false ∧ before.setsStart = false ∧ after.setsStart = false ∧
      Trimmed text out ∧ out = ['a', 'a', 'b', '\n', 'c'] := by
  intro before after text out
  have hafter : after.setsGroup 1 = false := rfl
  have hbefore : before.setsStart = false := rfl
  have hafterStart : after.setsStart = false := rfl
  have hout : out = ['a', 'a', 'b', '\n', 'c'] := by decide
  exact ⟨hafter, hbefore, hafterStart,
    keepFirstGroup_trimmed false before after 3 [] text hafter hbefore hafterStart, hout⟩

end LineJoin
