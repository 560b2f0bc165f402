import LineJoin.Proofs.Joining.Break
import LineJoin.Proofs.Pattern.Language

/-!
# Deleting breaks by what stands next to them

`deleteBreaks` goes through a text token by token and deletes a line break if a condition on the
text before it and the text after it holds. Replacing the matches of a rule with plain sides does the
same, with the condition that the text before ends with a text of the one side and the text after
begins with a text of the other. The search for matches is from left to right and goes on after each
match, but no text of the first side contains a break, so what a match has passed over cannot be
part of what stands before a later break: `Clear` is the invariant that says this.
-/

namespace LineJoin

open Pattern

/-- Deletes the line breaks for which the condition holds. The text before is given with the
nearest character first. -/
def deleteBreaks (drops : List Char → List Char → Bool) : List Char → List Char → List Char
  | _, [] => []
  | before, '\r' :: '\n' :: rest =>
    (if drops before rest then [] else ['\r', '\n']) ++
      deleteBreaks drops ('\n' :: '\r' :: before) rest
  | before, c :: rest =>
    (if isBreakChar c && drops before rest then [] else [c]) ++
      deleteBreaks drops (c :: before) rest

section Tokens

variable {drops : List Char → List Char → Bool} {before : List Char}

theorem deleteBreaks_break {b rest : List Char} (hb : IsBreak b rest) :
    deleteBreaks drops before (b ++ rest) =
      (if drops before rest then [] else b) ++ deleteBreaks drops (b.reverse ++ before) rest := by
  cases hb with
  | pair => rfl
  | feed => simp [deleteBreaks, isBreakChar]
  | carriage _ h =>
    have hne : ∀ r, rest ≠ '\n' :: r := fun r hr => h (hr ▸ rfl)
    cases rest with
    | nil => simp [deleteBreaks, isBreakChar]
    | cons c rest =>
      have hc : c ≠ '\n' := fun hc => hne rest (hc ▸ rfl)
      simp [deleteBreaks, isBreakChar, hc]

theorem deleteBreaks_char {c : Char} (hc : isBreakChar c = false) (rest : List Char) :
    deleteBreaks drops before (c :: rest) = c :: deleteBreaks drops (c :: before) rest := by
  have hr : c ≠ '\r' := by
    rintro rfl
    cases hc
  rw [deleteBreaks]
  · simp [hc]
  · intro r h
    exact absurd h hr

theorem deleteBreaks_text {w : List Char} (hw : ∀ c ∈ w, isBreakChar c = false)
    (rest : List Char) :
    deleteBreaks drops before (w ++ rest) = w ++ deleteBreaks drops (w.reverse ++ before) rest := by
  induction w generalizing before with
  | nil => rfl
  | cons c w ih =>
    obtain ⟨hc, hw⟩ := List.forall_mem_cons.mp hw
    rw [List.cons_append, deleteBreaks_char hc, ih hw, List.reverse_cons, List.append_assoc]
    rfl

end Tokens

theorem IsBreak.isBreakChar {b rest : List Char} (h : IsBreak b rest) :
    ∀ c ∈ b, isBreakChar c = true := by
  cases h <;> simp [LineJoin.isBreakChar]

theorem IsBreak.ne_nil {b rest : List Char} (h : IsBreak b rest) : b ≠ [] := by
  cases h <;> simp

/-- A text that begins with a break character begins with a break. -/
theorem exists_isBreak {c : Char} (hc : isBreakChar c = true) (rest : List Char) :
    ∃ b r, c :: rest = b ++ r ∧ IsBreak b r ∧ (b = [c] ∨ c = '\r' ∧ b = ['\r', '\n']) := by
  simp only [isBreakChar, Bool.or_eq_true, beq_iff_eq] at hc
  rcases hc with rfl | rfl
  · by_cases hn : rest.head? = some '\n'
    · obtain ⟨r, rfl⟩ := List.head?_eq_some_iff.mp hn
      exact ⟨_, r, rfl, .pair r, .inr ⟨rfl, rfl⟩⟩
    · exact ⟨['\r'], rest, rfl, .carriage rest hn, .inl rfl⟩
  · exact ⟨['\n'], rest, rfl, .feed rest, .inl rfl⟩

namespace Pattern.Node

/-- A text before a place, nearest character first, ends with a text of the node. -/
def EndsText (n : Node Nat) (before : List Char) : Prop := ∃ u, n.Matches u ∧ u <:+ before.reverse

def BeginsText (n : Node Nat) (after : List Char) : Prop := ∃ v, n.Matches v ∧ v <+: after

/-- Nothing in a text that the node takes contains a line break. -/
def AvoidsBreaksIn (n : Node Nat) (text : List Char) : Prop :=
  ∀ w, n.Matches w → w <:+: text → ∀ c ∈ w, isBreakChar c = false

theorem TakesOnly.avoidsBreaksIn {n : Node Nat} (h : n.TakesOnly fun c => isBreakChar c = false)
    (text : List Char) : n.AvoidsBreaksIn text := fun _ hw _ => hw.forall_mem h

end Pattern.Node

section Plain

variable {ignoreCase : Bool} {before after : Node Nat}

theorem of_mem_ruleNode_plain {calls : CallWays} (hb : before.Plain) (ha : after.Plain)
    {origin : Nat} {c : Cursor} {e : State}
    (he : e ∈ (Rule.node ignoreCase before after).ways calls false (.begin origin c)) :
    ∃ w b, before.Matches w ∧ c.Takes (w ++ b) e.cursor ∧ IsBreak b e.cursor.after ∧
      after.BeginsText e.cursor.after ∧ e.memory = ⟨[(1, w)], none, origin⟩ := by
  obtain ⟨m, hm, he⟩ := Node.mem_ways_seq.mp he
  obtain ⟨x, hx, rfl⟩ := List.mem_map.mp hm
  obtain ⟨d, hd, he⟩ := Node.mem_ways_seq.mp he
  obtain ⟨w, hw, hcx⟩ := (Node.mem_ways_plain hb).mp hx
  obtain ⟨b, hbreak, hxd, hmemory⟩ := mem_ways_breakNode.mp hd
  have hmemoryd : d.memory = ⟨[(1, w)], none, origin⟩ := by
    rw [hmemory]
    change x.memory.capture 1 (c.between x.cursor) = _
    have htext : c.between x.cursor = w := hcx.cursor.between
    rw [hcx.memory, htext]
    rfl
  simp only [Node.ways] at he
  split at he
  · rename_i y hy
    obtain rfl := List.mem_singleton.mp he
    obtain ⟨v, hv, hdy⟩ := (Node.mem_ways_plain ha).mp (List.mem_of_mem_head? hy)
    exact ⟨w, b, hw, hcx.cursor.trans hxd, hbreak, ⟨v, hv, _, hdy.cursor.after.symm⟩,
      hdy.memory.trans hmemoryd⟩
  · contradiction
  · cases he

theorem mem_ruleNode_of_takes {calls : CallWays} (hb : before.Plain) (ha : after.Plain)
    {origin : Nat} {c : Cursor} {e : State} {w b : List Char} (hw : before.Matches w)
    (hce : c.Takes (w ++ b) e.cursor) (hbreak : IsBreak b e.cursor.after)
    (hbegins : after.BeginsText e.cursor.after) (hmemory : e.memory = ⟨[(1, w)], none, origin⟩) :
    e ∈ (Rule.node ignoreCase before after).ways calls false (.begin origin c) := by
  obtain ⟨v, hv, r, hr⟩ := hbegins
  have hafter := hce.after
  rw [List.append_assoc] at hafter
  obtain ⟨x, hx, hxafter⟩ := State.exists_takes (s := .begin origin c) hafter
  have hxc : c.Takes w x.cursor := hx.cursor
  have hxe : x.cursor.Takes b e.cursor := by
    refine ⟨hxafter, ?_, ?_⟩
    · rw [hce.before, hxc.before, List.reverse_append, List.append_assoc]
    · rw [hce.index, hxc.index, List.length_append, Nat.add_assoc]
  have hxmemory : x.capture 1 (c.between x.cursor) = ⟨x.cursor, [(1, w)], none, origin⟩ := by
    rw [State.capture, hxc.between, hx.memory]
    rfl
  have hd : (⟨e.cursor, [(1, w)], none, origin⟩ : State) ∈
      (Rule.breakNode ignoreCase).ways calls false ⟨x.cursor, [(1, w)], none, origin⟩ :=
    mem_ways_breakNode.mpr ⟨b, hbreak, hxe, rfl⟩
  obtain ⟨y, hy, -⟩ := State.exists_takes (s := ⟨e.cursor, [(1, w)], none, origin⟩) hr.symm
  have hya : y ∈ after.ways calls false ⟨e.cursor, [(1, w)], none, origin⟩ :=
    (Node.mem_ways_plain ha).mpr ⟨v, hv, hy⟩
  obtain ⟨z, hz⟩ :
      ∃ z, (after.ways calls false ⟨e.cursor, [(1, w)], none, origin⟩).head? = some z :=
    Option.isSome_iff_exists.mp (List.isSome_head?.mpr (List.ne_nil_of_mem hya))
  obtain ⟨_, -, hez⟩ := (Node.mem_ways_plain ha).mp (List.mem_of_mem_head? hz)
  refine Node.mem_ways_seq.mpr ⟨_, List.mem_map.mpr ⟨x, ?_, rfl⟩, ?_⟩
  · exact (Node.mem_ways_plain hb).mpr ⟨w, hw, hx⟩
  · change e ∈ (Node.seq _ _).ways calls false (x.capture 1 (c.between x.cursor))
    rw [hxmemory]
    refine Node.mem_ways_seq.mpr ⟨_, hd, ?_⟩
    simp only [Node.ways, hz, List.mem_singleton]
    rw [hez.memory, ← hmemory]

/-- The matches of a rule with plain sides. -/
theorem mem_ruleNode_plain {calls : CallWays} (hb : before.Plain) (ha : after.Plain) {origin : Nat}
    {c : Cursor} {e : State} :
    e ∈ (Rule.node ignoreCase before after).ways calls false (.begin origin c) ↔
      ∃ w b, before.Matches w ∧ c.Takes (w ++ b) e.cursor ∧ IsBreak b e.cursor.after ∧
        after.BeginsText e.cursor.after ∧ e.memory = ⟨[(1, w)], none, origin⟩ :=
  ⟨of_mem_ruleNode_plain hb ha, fun ⟨_, _, hw, hce, hbreak, hbegins, hmemory⟩ =>
    mem_ruleNode_of_takes hb ha hw hce hbreak hbegins hmemory⟩

/-- A place where a match starts: a text of the first side, a break and a text of the other. -/
def StartsMatch (before after : Node Nat) (u text : List Char) : Prop :=
  ∃ w b rest, text = w ++ b ++ rest ∧ IsBreak b rest ∧ before.Matches (u ++ w) ∧
    after.BeginsText rest

theorem matchesAt_eq_nil_iff (hb : before.Plain) (ha : after.Plain) {origin : Nat} {advance : Bool}
    {c : Cursor} :
    (Rule.node ignoreCase before after).matchesAt origin advance c = [] ↔
      ¬ StartsMatch before after [] c.after := by
  rw [List.eq_nil_iff_forall_not_mem, StartsMatch]
  constructor
  · rintro h ⟨w, b, rest, hafter, hbreak, hw, hbegins⟩
    obtain ⟨d, hd, hdafter⟩ := Cursor.exists_takes hafter
    refine h ⟨d, [(1, w)], none, origin⟩ (Node.mem_matchesAt.mpr ⟨?_, ?_⟩)
    · exact (mem_ruleNode_plain hb ha).mpr
        ⟨w, b, hw, hd, hdafter ▸ hbreak, hdafter ▸ hbegins, rfl⟩
    · rintro ⟨-, hindex⟩
      have hnil := hd.nil_iff.mpr hindex
      exact hbreak.ne_nil (List.append_eq_nil_iff.mp hnil).2
  · rintro h e he
    obtain ⟨w, b, hw, hce, hbreak, hbegins, -⟩ :=
      (mem_ruleNode_plain hb ha).mp (Node.mem_matchesAt.mp he).1
    exact h ⟨w, b, _, hce.after, hbreak, hw, hbegins⟩

/-- No match that starts before a place goes on after it. -/
def Clear (before after : Node Nat) (c : Cursor) : Prop :=
  ∀ u, u ≠ [] → u <:+ c.before.reverse → ¬ StartsMatch before after u c.after

theorem clear_start (before after : Node Nat) (text : List Char) :
    Clear before after (.start text) := by
  intro u hne hu
  exact absurd (List.suffix_nil.mp hu) hne

/-- No text of the first side reaches back over a break. -/
theorem clear_of_break {c : Cursor} (havoids : before.AvoidsBreaksIn c.whole)
    {x : Char} {r : List Char} (hc : c.before = x :: r) (hx : isBreakChar x = true) :
    Clear before after c := by
  rintro u hne hu ⟨w, b, rest, hafter, -, hw, -⟩
  obtain ⟨y, hy⟩ := hu
  have hinfix : u ++ w <:+: c.whole := ⟨y, b ++ rest, by simp [Cursor.whole, hafter, ← hy]⟩
  have hu : u <:+ c.before.reverse := ⟨y, hy⟩
  rw [hc, List.reverse_cons, List.suffix_concat_iff] at hu
  obtain ⟨v, rfl, -⟩ := hu.resolve_left hne
  have hno := havoids _ hw hinfix x (by simp)
  rw [hx] at hno
  cases hno

theorem Clear.skip {c d : Cursor} {x : Char} (h : Clear before after c) (hd : c.Takes [x] d)
    (hnone : ¬ StartsMatch before after [] c.after) : Clear before after d := by
  rintro u hne hu ⟨w, b, rest, hafter, hbreak, hw, hbegins⟩
  have hbefore : d.before.reverse = c.before.reverse ++ [x] := by
    rw [hd.before, List.reverse_append, List.reverse_reverse]
  rw [hbefore, List.suffix_concat_iff] at hu
  obtain ⟨v, rfl, hv⟩ := hu.resolve_left hne
  have hmatch : StartsMatch before after v c.after :=
    ⟨x :: w, b, rest, by rw [hd.after, hafter]; rfl, hbreak, by simpa using hw, hbegins⟩
  by_cases hvn : v = []
  · exact hnone (hvn ▸ hmatch)
  · exact h v hvn hv hmatch

/-- If no match starts at a `\r\n`, none starts at its `\n` either. -/
theorem not_startsMatch_inside {c d : Cursor} (havoids : before.AvoidsBreaksIn d.whole)
    {r : List Char} (hc : c.after = '\r' :: '\n' :: r) (hd : d.after = '\n' :: r)
    (hnone : ¬ StartsMatch before after [] c.after) : ¬ StartsMatch before after [] d.after := by
  rintro ⟨w, b, rest, hrest, hbreak, hw, hbegins⟩
  rw [hd] at hrest
  cases w with
  | cons y w =>
    have hinfix : y :: w <:+: d.whole :=
      ⟨d.before.reverse, b ++ rest, by simp [Cursor.whole, hd, hrest]⟩
    obtain ⟨rfl, -⟩ := List.cons.inj hrest
    cases havoids _ hw hinfix '\n' List.mem_cons_self
  | nil =>
    cases hbreak with
    | pair => cases (List.cons.inj hrest).1
    | carriage => cases (List.cons.inj hrest).1
    | feed =>
      obtain rfl := (List.cons.inj hrest).2
      exact hnone ⟨[], _, _, hc, .pair r, hw, hbegins⟩

variable {drops : List Char → List Char → Bool}
  (hdrops : ∀ x y, drops x y = true ↔ before.EndsText x ∧ after.BeginsText y)

include hdrops

/-- A break at which no match starts, and before which none goes on, is kept. -/
theorem drops_eq_false {c : Cursor} (hclear : Clear before after c)
    (hnone : ¬ StartsMatch before after [] c.after) {b rest : List Char}
    (hafter : c.after = b ++ rest) (hbreak : IsBreak b rest) : drops c.before rest = false := by
  rw [Bool.eq_false_iff, ne_eq, hdrops]
  rintro ⟨⟨u, hu, hsuffix⟩, hbegins⟩
  have hmatch : StartsMatch before after u c.after :=
    ⟨[], b, rest, hafter, hbreak, by rwa [List.append_nil], hbegins⟩
  by_cases hun : u = []
  · exact hnone (hun ▸ hmatch)
  · exact hclear u hun hsuffix hmatch

/-- What stands between a text of the one side and a text of the other is deleted. -/
theorem deleteBreaks_match {w b rest : List Char} (x : List Char)
    (hplain : ∀ c ∈ w, isBreakChar c = false) (hw : before.Matches w) (hbreak : IsBreak b rest)
    (hbegins : after.BeginsText rest) :
    deleteBreaks drops x (w ++ b ++ rest) = w ++ deleteBreaks drops ((w ++ b).reverse ++ x) rest := by
  have hends : before.EndsText (w.reverse ++ x) :=
    ⟨w, hw, by rw [List.reverse_append, List.reverse_reverse]; exact List.suffix_append ..⟩
  rw [List.append_assoc, deleteBreaks_text hplain, deleteBreaks_break hbreak,
    if_pos ((hdrops _ _).mpr ⟨hends, hbegins⟩), List.reverse_append, List.append_assoc]
  rfl

/-- A walk over a text deletes the breaks for which the condition holds. -/
theorem scan_eq_deleteBreaks (hb : before.Plain) (ha : after.Plain) {origin : Nat} {advance : Bool}
    {c : Cursor} {out : List Char} (havoids : before.AvoidsBreaksIn c.whole) (hc : c.Placed)
    (hclear : Clear before after c)
    (h : Scan (Rule.node ignoreCase before after) origin advance c out) :
    out = deleteBreaks drops c.before c.after := by
  induction hn : c.after.length using Nat.strongRecOn generalizing origin advance c out with
  | ind n ih =>
    -- What is left of the walk, from a place further on that no match goes on after.
    have hwalk {t : List Char} {i : Nat} {a : Bool} {d : Cursor} {o : List Char} (hd : c.Takes t d)
        (ht : t ≠ []) (hcleard : Clear before after d)
        (hrest : Scan (Rule.node ignoreCase before after) i a d o) :
        o = deleteBreaks drops (t.reverse ++ c.before) d.after := by
      have hlen := hd.length_eq
      have hpos := List.length_pos_iff.mpr ht
      rw [ih d.after.length (by omega) (hd.whole_eq ▸ havoids) (hd.placed hc) hcleard hrest rfl,
        hd.before]
    cases h with
    | done _ stop => rw [stop, deleteBreaks]
    | @hit _ _ _ e others out found rest =>
      have he : e ∈ (Rule.node ignoreCase before after).matchesAt origin advance c := by
        rw [found]
        exact List.mem_cons_self
      obtain ⟨w, b, hw, hce, hbreak, hbegins, hmemory⟩ :=
        (mem_ruleNode_plain hb ha).mp (Node.mem_matchesAt.mp he).1
      have hne : w ++ b ≠ [] := fun h => hbreak.ne_nil (List.append_eq_nil_iff.mp h).2
      have hfirst : e.captured? 1 = some w := by
        rw [State.captured?, hmemory]
        rfl
      have hplain := havoids w hw ⟨c.before.reverse, b ++ e.cursor.after, by
        simp [Cursor.whole, hce.after]⟩
      obtain ⟨x, r, hx⟩ := List.exists_cons_of_ne_nil (List.reverse_ne_nil_iff.mpr hbreak.ne_nil)
      have hxb : isBreakChar x = true :=
        hbreak.isBreakChar x (List.mem_reverse.mp (hx ▸ List.mem_cons_self))
      have hcleare : Clear before after e.cursor :=
        clear_of_break (hce.whole_eq ▸ havoids)
          (by rw [hce.before, List.reverse_append, hx]; rfl) hxb
      rw [hwalk hce hne hcleare rest, hfirst, hce.after,
        deleteBreaks_match hdrops c.before hplain hw hbreak hbegins]
      rfl
    | @skip _ _ _ d x out none next rest =>
      have hnone := (matchesAt_eq_nil_iff hb ha).mp none
      have hcleard := hclear.skip next hnone
      by_cases hx : isBreakChar x = true
      · obtain ⟨b, r, hsplit, hbreak, hb'⟩ := exists_isBreak hx d.after
        have hafter : c.after = b ++ r := by rw [next.after, ← hsplit]; rfl
        have hkeep := drops_eq_false hdrops hclear hnone hafter hbreak
        rw [hafter, deleteBreaks_break hbreak, hkeep]
        rcases hb' with rfl | ⟨rfl, rfl⟩
        · have hr : d.after = r := (List.cons.inj hsplit).2
          rw [hwalk next (by simp) hcleard rest, hr]
          rfl
        · -- The walk stands between the two characters of one break, where no match starts either.
          have hr : d.after = '\n' :: r := (List.cons.inj hsplit).2
          have hnone' := not_startsMatch_inside (next.whole_eq ▸ havoids) hafter hr hnone
          cases rest with
          | done _ stop =>
            rw [stop] at hr
            cases hr
          | hit found =>
            rw [(matchesAt_eq_nil_iff hb ha).mpr hnone'] at found
            cases found
          | @skip _ _ _ e y out _ next' rest =>
            have he := next'.after
            rw [hr] at he
            obtain ⟨rfl, rfl⟩ := List.cons.inj he
            rw [hwalk (next.trans next') (by simp) (hcleard.skip next' hnone') rest]
            rfl
      · have hx' : isBreakChar x = false := Bool.eq_false_iff.mpr hx
        rw [hwalk next (by simp) hcleard rest, next.after]
        exact (deleteBreaks_char hx' _).symm

/-- Replacing the matches of a rule with plain sides deletes exactly the breaks between a text of
the one side and a text of the other, if nothing that the first side takes contains a break. -/
theorem keepFirstGroup_eq_deleteBreaks_of_text (hb : before.Plain) (ha : after.Plain)
    {text : List Char} (havoids : before.AvoidsBreaksIn text) {p : Pattern}
    (hp : p.root = Rule.node ignoreCase before after) :
    p.keepFirstGroup text = deleteBreaks drops [] text := by
  have hstart : p.root.setsStart = false := by
    rw [hp]
    exact ruleNode_setsStart ignoreCase hb.setsStart ha.setsStart
  have h := scan_keepFirstGroup hstart text
  rw [hp] at h
  exact scan_eq_deleteBreaks (c := .start text) hdrops hb ha havoids (Cursor.placed_start text)
    (clear_start before after text) h

/-- If no text of the first side contains a break at all, this holds for every text. -/
theorem keepFirstGroup_eq_deleteBreaks (hb : before.Plain) (ha : after.Plain)
    (hkind : before.TakesOnly fun c => isBreakChar c = false) {p : Pattern}
    (hp : p.root = Rule.node ignoreCase before after) (text : List Char) :
    p.keepFirstGroup text = deleteBreaks drops [] text :=
  keepFirstGroup_eq_deleteBreaks_of_text hdrops hb ha (hkind.avoidsBreaksIn text) hp

end Plain

end LineJoin
