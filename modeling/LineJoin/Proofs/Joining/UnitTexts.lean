import LineJoin.Proofs.Joining.Units

/-!
# The texts of a unit

`UnitText` lists the texts that are one unit: a character of the base class or, if emoji are units,
one of the kinds of emoji. `matches_node_iff` says that these are the texts of the tree of a unit.
A chain of emoji that are joined is built from its end, so that what remains of a unit after some of
its characters is seen to be a unit again, unless it begins with a character that only stands after
others.
-/

namespace LineJoin

open Pattern

namespace Units

/-- The sign that asks for the picture of the character before it. -/
def selector : Char := '\uFE0F'

def joiner : Char := '\u200D'

/-- The sign that draws a key around the character before it. -/
def keycapMark : Char := '\u20E3'

/-- The sign that ends a sequence of tags. -/
def tagEnd : Char := Char.ofNat 0xE007F

def isTag (c : Char) : Bool := acceptsChar false (.set true tagItems) c

def isKey (c : Char) : Bool := acceptsChar false (.set true keyItems) c

/-- The characters that are units by themselves, whether emoji are units or not. -/
def inClass (x : Extensions) (c : Char) : Bool :=
  acceptsChar false (.set true (classItems (properties x) (spans x))) c

def has (p : Property) (c : Char) : Bool := p.holds c.toNat

/-- An emoji as it may stand between joiners. -/
inductive Element : List Char → Prop where
  | emoji {c : Char} (h : has .emoji c = true) : Element [c]
  | presentation {c : Char} (h : has .emoji c = true) : Element [c, selector]
  | modifier {b m : Char} (hb : has .emojiModifierBase b = true)
      (hm : has .emojiModifier m = true) : Element [b, m]

/-- One or more elements with joiners between them. -/
inductive Chain : List Char → Prop where
  | last {e : List Char} (h : Element e) : Chain e
  | link {e u : List Char} (h : Element e) (rest : Chain u) : Chain (e ++ joiner :: u)

inductive UnitText (x : Extensions) : List Char → Prop where
  | inClass {c : Char} (h : inClass x c = true) : UnitText x [c]
  | presented {c : Char} (hx : x.emoji = true) (h : has .emojiPresentation c = true) :
      UnitText x [c]
  | chain {u : List Char} (hx : x.emoji = true) (h : Chain u) : UnitText x u
  | keycap {c : Char} (hx : x.emoji = true) (h : isKey c = true) :
      UnitText x [c, selector, keycapMark]
  | flag {a b : Char} (hx : x.emoji = true) (ha : has .regionalIndicator a = true)
      (hb : has .regionalIndicator b = true) : UnitText x [a, b]
  | tagged {e tags : List Char} (hx : x.emoji = true) (h : Element e) (hne : tags ≠ [])
      (htags : ∀ c ∈ tags, isTag c = true) : UnitText x (e ++ (tags ++ [tagEnd]))

section Parts

variable {t : List Char}

theorem matches_property_iff {p : Property} :
    (propertyNode p false).Matches t ↔ ∃ c, has p c = true ∧ t = [c] := by
  rw [propertyNode, Node.matches_char_iff]
  simp only [acceptsChar, CharTest.accepts, Bool.false_eq_true, if_false, beq_true, has]

theorem matches_code_iff {x : Char} {n : Nat} (hn : x.toNat = n) :
    (codeNode n false).Matches t ↔ t = [x] := by
  subst hn
  rw [codeNode, Node.matches_char_iff]
  simp only [acceptsChar, CharTest.accepts, Bool.false_eq_true, if_false, toNat_beq, beq_iff_eq,
    exists_eq_left]

theorem matches_selector_iff : (codeNode 0xFE0F false).Matches t ↔ t = [selector] :=
  matches_code_iff rfl

theorem matches_joiner_iff : (codeNode 0x200D false).Matches t ↔ t = [joiner] :=
  matches_code_iff rfl

theorem matches_keycapMark_iff : (codeNode 0x20E3 false).Matches t ↔ t = [keycapMark] :=
  matches_code_iff rfl

theorem matches_tagEnd_iff : (codeNode 0xE007F false).Matches t ↔ t = [tagEnd] :=
  matches_code_iff (by decide)

theorem matches_presentation_iff : (presentationNode false).Matches t ↔
    ∃ c, has .emoji c = true ∧ t = [c, selector] := by
  rw [presentationNode, Node.matches_seq_iff]
  simp only [matches_property_iff, matches_selector_iff]
  constructor
  · rintro ⟨_, _, ⟨c, hc, rfl⟩, rfl, rfl⟩
    exact ⟨c, hc, rfl⟩
  · rintro ⟨c, hc, rfl⟩
    exact ⟨[c], _, ⟨c, hc, rfl⟩, rfl, rfl⟩

theorem matches_pair_iff {p q : Property} :
    Node.Matches (.seq (propertyNode p false) (propertyNode q false)) t ↔
      ∃ a b, has p a = true ∧ has q b = true ∧ t = [a, b] := by
  rw [Node.matches_seq_iff]
  simp only [matches_property_iff]
  constructor
  · rintro ⟨_, _, ⟨a, ha, rfl⟩, ⟨b, hb, rfl⟩, rfl⟩
    exact ⟨a, b, ha, hb, rfl⟩
  · rintro ⟨a, b, ha, hb, rfl⟩
    exact ⟨[a], [b], ⟨a, ha, rfl⟩, ⟨b, hb, rfl⟩, rfl⟩

theorem element_iff : Element t ↔ (propertyNode .emoji false).Matches t ∨
    (presentationNode false).Matches t ∨ (modifierNode false).Matches t := by
  rw [modifierNode, matches_property_iff, matches_presentation_iff, matches_pair_iff]
  constructor
  · rintro (h | h | ⟨hb, hm⟩)
    · exact .inl ⟨_, h, rfl⟩
    · exact .inr (.inl ⟨_, h, rfl⟩)
    · exact .inr (.inr ⟨_, _, hb, hm, rfl⟩)
  · rintro (⟨c, h, rfl⟩ | ⟨c, h, rfl⟩ | ⟨b, m, hb, hm, rfl⟩)
    · exact .emoji h
    · exact .presentation h
    · exact .modifier hb hm

theorem matches_element_iff : (elementNode false).Matches t ↔ Element t := by
  rw [elementNode, Node.matches_branches_iff (by simp [elementBranches]), element_iff]
  simp [elementBranches]

theorem matches_taggedElement_iff :
    (Node.branches (taggedBranches.map (· false))).Matches t ↔ Element t := by
  rw [Node.matches_branches_iff (by simp [taggedBranches]), element_iff]
  simp only [taggedBranches, List.map_cons, List.map_nil, List.mem_cons, List.not_mem_nil, or_false,
    exists_eq_or_imp, exists_eq_left]
  rw [or_comm (a := (modifierNode false).Matches t)]

theorem matches_link_iff : (linkNode false).Matches t ↔ ∃ e, Element e ∧ t = joiner :: e := by
  rw [linkNode, Node.matches_seq_iff]
  simp only [matches_joiner_iff, matches_element_iff]
  constructor
  · rintro ⟨_, e, rfl, he, rfl⟩
    exact ⟨e, he, rfl⟩
  · rintro ⟨e, he, rfl⟩
    exact ⟨_, e, rfl, he, rfl⟩

theorem Element.ne_nil (h : Element t) : t ≠ [] := by
  cases h <;> exact List.cons_ne_nil _ _

/-- What stands after the first joiner of a chain. -/
theorem exists_links_iff : (∃ ts : List (List Char), 1 ≤ ts.length ∧
    (∀ u ∈ ts, (linkNode false).Matches u) ∧ t = ts.flatten) ↔ ∃ u, Chain u ∧ t = joiner :: u := by
  constructor
  · rintro ⟨ts, hlen, hts, rfl⟩
    induction ts with
    | nil => cases hlen
    | cons u ts ih =>
      obtain ⟨hu, hmore⟩ := List.forall_mem_cons.mp hts
      obtain ⟨e, he, rfl⟩ := matches_link_iff.mp hu
      cases ts with
      | nil => exact ⟨e, .last he, by simp⟩
      | cons v ts =>
        obtain ⟨u, hu, hflat⟩ := ih (by simp) hmore
        exact ⟨e ++ joiner :: u, .link he hu, by rw [List.flatten_cons, hflat]; rfl⟩
  · rintro ⟨u, hu, rfl⟩
    induction hu with
    | @last e he =>
      exact ⟨[joiner :: e], Nat.le_refl 1,
        List.forall_mem_singleton.mpr (matches_link_iff.mpr ⟨e, he, rfl⟩), by simp⟩
    | @link e u he _ ih =>
      obtain ⟨ts, hlen, hts, hflat⟩ := ih
      refine ⟨(joiner :: e) :: ts, Nat.le_add_left _ _,
        List.forall_mem_cons.mpr ⟨matches_link_iff.mpr ⟨e, he, rfl⟩, hts⟩, ?_⟩
      rw [List.flatten_cons, ← hflat]
      rfl

/-- Chains of two elements or more. -/
theorem matches_joined_iff : (joinedNode false).Matches t ↔
    ∃ e u, Element e ∧ Chain u ∧ t = e ++ joiner :: u := by
  have hlink : ¬ (linkNode false).Matches [] := by
    rw [matches_link_iff]
    rintro ⟨e, -, h⟩
    cases h
  rw [joinedNode, Node.matches_seq_iff]
  simp only [matches_element_iff, Node.matches_repeated_iff hlink, exists_links_iff]
  constructor
  · rintro ⟨e, _, he, ⟨u, hu, rfl⟩, rfl⟩
    exact ⟨e, u, he, hu, rfl⟩
  · rintro ⟨e, u, he, hu, rfl⟩
    exact ⟨e, _, he, ⟨u, hu, rfl⟩, rfl⟩

theorem matches_keycap_iff : (keycapNode false).Matches t ↔
    ∃ c, isKey c = true ∧ t = [c, selector, keycapMark] := by
  rw [keycapNode, Node.matches_seq_iff]
  simp only [Node.matches_seq_iff, Node.matches_char_iff, matches_selector_iff,
    matches_keycapMark_iff]
  constructor
  · rintro ⟨_, _, ⟨c, hc, rfl⟩, ⟨_, _, rfl, rfl, rfl⟩, rfl⟩
    exact ⟨c, hc, rfl⟩
  · rintro ⟨c, hc, rfl⟩
    exact ⟨[c], _, ⟨c, hc, rfl⟩, ⟨_, _, rfl, rfl, rfl⟩, rfl⟩

/-- Characters that are repeated at least once. -/
theorem matches_tags_iff :
    Node.Matches (.repeated true 1 none (.char false (.set true tagItems))) t ↔
      t ≠ [] ∧ ∀ c ∈ t, isTag c = true := by
  have hone {u : List Char} : Node.Matches (.char false (.set true tagItems)) u ↔
      ∃ c, isTag c = true ∧ u = [c] := Node.matches_char_iff
  have hempty : ¬ Node.Matches (.char false (.set true tagItems)) [] := by
    rw [hone]
    rintro ⟨c, -, h⟩
    cases h
  rw [Node.matches_repeated_iff hempty]
  simp only [hone]
  constructor
  · rintro ⟨ts, hlen, hts, rfl⟩
    constructor
    · obtain ⟨u, ts, rfl⟩ := List.exists_cons_of_length_pos hlen
      obtain ⟨c, -, rfl⟩ := hts u List.mem_cons_self
      exact List.cons_ne_nil _ _
    · intro c hc
      obtain ⟨u, hu, hc⟩ := List.mem_flatten.mp hc
      obtain ⟨d, hd, rfl⟩ := hts u hu
      exact List.mem_singleton.mp hc ▸ hd
  · rintro ⟨hne, htags⟩
    refine ⟨t.map fun c => [c], ?_, ?_, ?_⟩
    · rw [List.length_map]
      exact List.length_pos_iff.mpr hne
    · intro u hu
      obtain ⟨c, hc, rfl⟩ := List.mem_map.mp hu
      exact ⟨c, htags c hc, rfl⟩
    · rw [← List.flatMap_def, List.flatMap_singleton']

theorem matches_tag_iff : (tagNode false).Matches t ↔
    ∃ e tags, Element e ∧ tags ≠ [] ∧ (∀ c ∈ tags, isTag c = true) ∧
      t = e ++ (tags ++ [tagEnd]) := by
  rw [tagNode, Node.matches_seq_iff]
  simp only [Node.matches_seq_iff, matches_taggedElement_iff, matches_tags_iff,
    matches_tagEnd_iff]
  constructor
  · rintro ⟨e, _, he, ⟨tags, _, ⟨hne, htags⟩, rfl, rfl⟩, rfl⟩
    exact ⟨e, tags, he, hne, htags, rfl⟩
  · rintro ⟨e, tags, he, hne, htags, rfl⟩
    exact ⟨e, _, he, ⟨tags, _, ⟨hne, htags⟩, rfl, rfl⟩, rfl⟩

end Parts

theorem chain_iff {t : List Char} : Chain t ↔ (propertyNode .emoji false).Matches t ∨
    (presentationNode false).Matches t ∨ (modifierNode false).Matches t ∨
      (joinedNode false).Matches t := by
  have hchain : Chain t ↔ Element t ∨ (joinedNode false).Matches t := by
    rw [matches_joined_iff]
    constructor
    · rintro (h | ⟨h, rest⟩)
      · exact .inl h
      · exact .inr ⟨_, _, h, rest, rfl⟩
    · rintro (h | ⟨e, u, h, rest, rfl⟩)
      · exact .last h
      · exact .link h rest
  rw [hchain, element_iff, or_assoc, or_assoc]

theorem matches_emojiBranches_iff {t : List Char} :
    (∃ n ∈ (emojiBranches : List (Bool → Node Nat)), (n false).Matches t) ↔
      (propertyNode .emojiPresentation false).Matches t ∨ Chain t ∨
        (keycapNode false).Matches t ∨ (flagNode false).Matches t ∨ (tagNode false).Matches t := by
  simp only [emojiBranches, List.mem_cons, List.not_mem_nil, or_false, exists_eq_or_imp,
    exists_eq_left, chain_iff]
  tauto

/-- The texts of the tree of a unit. -/
theorem matches_node_iff (x : Extensions) {t : List Char} :
    (node x false).Matches t ↔ UnitText x t := by
  have hclass : (classNode x false).Matches t ↔ ∃ c, inClass x c = true ∧ t = [c] :=
    Node.matches_char_iff
  have hbranches : (node x false).Matches t ↔ (classNode x false).Matches t ∨
      x.emoji = true ∧ ∃ n ∈ (emojiBranches : List (Bool → Node Nat)), (n false).Matches t := by
    rw [node, Node.matches_branches_iff (by simp [branches])]
    simp only [branches, List.map_cons, List.mem_cons, exists_eq_or_imp]
    cases x.emoji <;> simp
  rw [hbranches, hclass, matches_emojiBranches_iff, matches_property_iff, matches_keycap_iff,
    flagNode, matches_pair_iff, matches_tag_iff]
  constructor
  · rintro (⟨c, h, rfl⟩ | ⟨hx, ⟨c, h, rfl⟩ | h | ⟨c, h, rfl⟩ | ⟨a, b, ha, hb, rfl⟩ |
      ⟨e, tags, h, hne, htags, rfl⟩⟩)
    · exact .inClass h
    · exact .presented hx h
    · exact .chain hx h
    · exact .keycap hx h
    · exact .flag hx ha hb
    · exact .tagged hx h hne htags
  · rintro (h | ⟨hx, h⟩ | ⟨hx, h⟩ | ⟨hx, h⟩ | ⟨hx, ha, hb⟩ | ⟨hx, h, hne, htags⟩)
    · exact .inl ⟨_, h, rfl⟩
    · exact .inr ⟨hx, .inl ⟨_, h, rfl⟩⟩
    · exact .inr ⟨hx, .inr (.inl h)⟩
    · exact .inr ⟨hx, .inr (.inr (.inl ⟨_, h, rfl⟩))⟩
    · exact .inr ⟨hx, .inr (.inr (.inr (.inl ⟨_, _, ha, hb, rfl⟩)))⟩
    · exact .inr ⟨hx, .inr (.inr (.inr (.inr ⟨_, _, h, hne, htags, rfl⟩)))⟩

end Units

theorem isUnit_iff_unitText (x : Extensions) (t : List Char) :
    isUnit x t = true ↔ Units.UnitText x t := by
  rw [isUnit_iff, Units.matches_node_iff]

namespace Units

variable {x : Extensions} {c : Char}

/-- The units of one character. -/
theorem unitText_singleton_iff : UnitText x [c] ↔ inClass x c = true ∨
    x.emoji = true ∧ (has .emojiPresentation c = true ∨ has .emoji c = true) := by
  constructor
  · intro h
    generalize ht : [c] = t at h
    cases h with
    | inClass h =>
      obtain ⟨rfl, -⟩ := List.cons.inj ht
      exact .inl h
    | presented hx h =>
      obtain ⟨rfl, -⟩ := List.cons.inj ht
      exact .inr ⟨hx, .inl h⟩
    | chain hx h =>
      cases h with
      | last h =>
        cases h with
        | emoji h =>
          obtain ⟨rfl, -⟩ := List.cons.inj ht
          exact .inr ⟨hx, .inr h⟩
        | presentation => cases (List.cons.inj ht).2
        | modifier => cases (List.cons.inj ht).2
      | link h rest => cases h <;> cases (List.cons.inj ht).2
    | keycap => cases (List.cons.inj ht).2
    | flag => cases (List.cons.inj ht).2
    | tagged _ h hne =>
      cases h with
      | emoji => simp at ht
      | presentation => cases (List.cons.inj ht).2
      | modifier => cases (List.cons.inj ht).2
  · rintro (h | ⟨hx, h | h⟩)
    · exact .inClass h
    · exact .presented hx h
    · exact .chain hx (.last (.emoji h))

section Tables

/-- The code points that only stand after others. -/
def trailing : List Span := [.single 0xFE0F, .single 0x200D, .single 0x20E3, ⟨0xE0020, 0xE007F⟩]

/-- The tables of the properties and spans that make characters units by themselves. -/
def unitTables : List (List Span) :=
  [Script.extended .han, Script.extended .bopomofo, Script.extended .yi, Script.extended .hiragana,
    Script.extended .katakana, CharTable.radical, Script.extended .hangul, baseSpans, squaredSpans,
    CharTable.emojiPresentation, CharTable.emoji]

theorem trailing_apart : (trailing.all fun z => unitTables.all fun t => t.all z.apart) = true := by
  decide +kernel

theorem exists_table_of_properties {p : NamedProperty} (hp : p ∈ properties x) :
    ∃ t ∈ unitTables, p.property.holds = Span.covers t := by
  have hall : ∀ p ∈ baseProperties ++ hangulProperties,
      ∃ t ∈ unitTables, p.property.holds = Span.covers t := by
    simp only [baseProperties, hangulProperties, List.cons_append, List.nil_append,
      List.forall_mem_cons, List.not_mem_nil, false_implies, implies_true, and_true]
    refine ⟨⟨_, ?_, rfl⟩, ⟨_, ?_, rfl⟩, ⟨_, ?_, rfl⟩, ⟨_, ?_, rfl⟩, ⟨_, ?_, rfl⟩, ⟨_, ?_, rfl⟩,
      ⟨_, ?_, rfl⟩⟩ <;> simp [unitTables]
  refine hall p ?_
  rcases List.mem_append.mp hp with hp | hp
  · exact List.mem_append_left _ hp
  · split at hp
    · exact List.mem_append_right _ hp
    · cases hp

theorem exists_table_of_spans {z : Span} (hz : z ∈ spans x) : ∃ t ∈ unitTables, z ∈ t := by
  rcases List.mem_append.mp hz with hz | hz
  · exact ⟨baseSpans, by simp [unitTables], hz⟩
  · split at hz
    · exact ⟨squaredSpans, by simp [unitTables], hz⟩
    · cases hz

/-- The class holds the characters with one of the properties and those in one of the spans. -/
theorem inClass_iff : inClass x c = true ↔
    (∃ p ∈ properties x, has p.property c = true) ∨ Span.covers (spans x) c.toNat = true := by
  have hitems : inClass x c = (classItems (properties x) (spans x)).any (·.holds c.toNat) := by
    simp [inClass, acceptsChar, CharTest.accepts]
  have hproperty (p : NamedProperty) :
      (SetItem.property p.property true).holds c.toNat = has p.property c := by
    rw [SetItem.holds, beq_true, has]
  simp only [hitems, classItems, List.any_append, List.any_map, Bool.or_eq_true, List.any_eq_true,
    Function.comp_apply, spanItem_holds, hproperty, Span.covers]

theorem isTag_iff : isTag c = true ↔ 0xE0020 ≤ c.toNat ∧ c.toNat ≤ 0xE007E := by
  simp [isTag, tagItems, acceptsChar, CharTest.accepts, SetItem.holds]

theorem isKey_iff : isKey c = true ↔
    (0x30 ≤ c.toNat ∧ c.toNat ≤ 0x39) ∨ c.toNat = 0x23 ∨ c.toNat = 0x2A := by
  simp [isKey, keyItems, acceptsChar, CharTest.accepts, SetItem.holds, eq_comm (b := c.toNat)]

/-- A unit of one character is in one of the tables. -/
theorem exists_table (h : UnitText x [c]) : ∃ t ∈ unitTables, Span.covers t c.toNat = true := by
  rcases unitText_singleton_iff.mp h with h | ⟨-, h | h⟩
  · rcases inClass_iff.mp h with ⟨p, hp, hholds⟩ | hcovers
    · obtain ⟨t, ht, hcovers⟩ := exists_table_of_properties hp
      exact ⟨t, ht, hcovers ▸ hholds⟩
    · obtain ⟨z, hz, hc⟩ := List.any_eq_true.mp hcovers
      obtain ⟨t, ht, hzt⟩ := exists_table_of_spans hz
      exact ⟨t, ht, List.any_eq_true.mpr ⟨z, hzt, hc⟩⟩
  · exact ⟨CharTable.emojiPresentation, by simp [unitTables], h⟩
  · exact ⟨CharTable.emoji, by simp [unitTables], h⟩

/-- A character that only stands after others is no unit. -/
theorem not_unitText_of_trailing (h : Span.covers trailing c.toNat = true) :
    ¬ UnitText x [c] := by
  intro hunit
  obtain ⟨t, ht, hcovers⟩ := exists_table hunit
  obtain ⟨z, hz, hc⟩ := List.any_eq_true.mp h
  have hapart := List.all_eq_true.mp (List.all_eq_true.mp trailing_apart z hz) t ht
  rw [Span.not_covers_of_apart hapart hc] at hcovers
  cases hcovers

theorem trailing_of_isTag (h : isTag c = true) : Span.covers trailing c.toNat = true := by
  obtain ⟨hlow, hhigh⟩ := isTag_iff.mp h
  rw [Span.covers_iff]
  exact ⟨⟨0xE0020, 0xE007F⟩, by simp [trailing], hlow, Nat.le_succ_of_le hhigh⟩

/-- The tables of the properties of emoji, and the characters that keys are made of. -/
def emojiTables : List (List Span) :=
  [CharTable.emojiPresentation, CharTable.emojiModifierBase, CharTable.emojiModifier,
    CharTable.regionalIndicator, [⟨0x30, 0x39⟩, ⟨0x23, 0x23⟩, ⟨0x2A, 0x2A⟩]]

theorem within_emoji :
    (emojiTables.all fun t => t.all fun z => CharTable.emoji.any z.within) = true := by
  decide +kernel

theorem emoji_of_covers {t : List Span} (ht : t ∈ emojiTables)
    (h : Span.covers t c.toNat = true) : has .emoji c = true := by
  obtain ⟨z, hz, hc⟩ := List.any_eq_true.mp h
  obtain ⟨w, hw, hin⟩ := List.any_eq_true.mp
    (List.all_eq_true.mp (List.all_eq_true.mp within_emoji t ht) z hz)
  exact Span.covers_of_within hw hin hc

theorem emoji_of_presented (h : has .emojiPresentation c = true) : has .emoji c = true :=
  emoji_of_covers (t := CharTable.emojiPresentation) (by simp [emojiTables]) h

theorem emoji_of_modifierBase (h : has .emojiModifierBase c = true) : has .emoji c = true :=
  emoji_of_covers (t := CharTable.emojiModifierBase) (by simp [emojiTables]) h

theorem emoji_of_modifier (h : has .emojiModifier c = true) : has .emoji c = true :=
  emoji_of_covers (t := CharTable.emojiModifier) (by simp [emojiTables]) h

theorem emoji_of_regionalIndicator (h : has .regionalIndicator c = true) : has .emoji c = true :=
  emoji_of_covers (t := CharTable.regionalIndicator) (by simp [emojiTables]) h

theorem emoji_of_key (h : isKey c = true) : has .emoji c = true := by
  refine emoji_of_covers (t := [⟨0x30, 0x39⟩, ⟨0x23, 0x23⟩, ⟨0x2A, 0x2A⟩])
    (by simp [emojiTables]) ?_
  have hkey := isKey_iff.mp h
  simp only [Span.covers_iff, List.mem_cons, List.not_mem_nil, or_false, exists_eq_or_imp,
    exists_eq_left]
  omega

end Tables

section Remainders

variable {e u w r tail : List Char}

theorem Element.exists_emoji (h : Element e) : ∃ c r, e = c :: r ∧ has .emoji c = true := by
  cases h with
  | emoji h => exact ⟨_, _, rfl, h⟩
  | presentation h => exact ⟨_, _, rfl, h⟩
  | modifier hb => exact ⟨_, _, rfl, emoji_of_modifierBase hb⟩

theorem Chain.exists_emoji (h : Chain u) : ∃ c r, u = c :: r ∧ has .emoji c = true := by
  cases h with
  | last h => exact h.exists_emoji
  | link h =>
    obtain ⟨c, r, rfl, hc⟩ := h.exists_emoji
    exact ⟨c, _, rfl, hc⟩

/-- The first character of a unit is a unit. -/
theorem UnitText.exists_first (h : UnitText x u) : ∃ c r, u = c :: r ∧ UnitText x [c] := by
  have hemoji {c : Char} (hx : x.emoji = true) (hc : has .emoji c = true) : UnitText x [c] :=
    unitText_singleton_iff.mpr (.inr ⟨hx, .inr hc⟩)
  cases h with
  | inClass h => exact ⟨_, _, rfl, .inClass h⟩
  | presented hx h => exact ⟨_, _, rfl, .presented hx h⟩
  | chain hx h =>
    obtain ⟨c, r, rfl, hc⟩ := h.exists_emoji
    exact ⟨c, r, rfl, hemoji hx hc⟩
  | keycap hx h => exact ⟨_, _, rfl, hemoji hx (emoji_of_key h)⟩
  | flag hx ha => exact ⟨_, _, rfl, hemoji hx (emoji_of_regionalIndicator ha)⟩
  | tagged hx h =>
    obtain ⟨c, r, rfl, hc⟩ := h.exists_emoji
    exact ⟨c, _, rfl, hemoji hx hc⟩

/-- Where a text that begins with an element is cut: behind the element, before the sign that asks
for a picture, or before a modifier. -/
theorem Element.cut (h : Element e) (hw : w ≠ []) (hcut : e ++ tail = w ++ c :: r) :
    (∃ w', tail = w' ++ c :: r) ∨ c = selector ∨ has .emoji c = true ∧ tail = r := by
  obtain ⟨d, w, rfl⟩ := List.exists_cons_of_ne_nil hw
  cases h with
  | emoji => exact .inl ⟨w, (List.cons.inj hcut).2⟩
  | presentation =>
    have hcut := (List.cons.inj hcut).2
    cases w with
    | nil => exact .inr (.inl (List.cons.inj hcut).1.symm)
    | cons d w => exact .inl ⟨w, (List.cons.inj hcut).2⟩
  | modifier _ hm =>
    have hcut := (List.cons.inj hcut).2
    cases w with
    | nil =>
      obtain ⟨rfl, htail⟩ := List.cons.inj hcut
      exact .inr (.inr ⟨emoji_of_modifier hm, htail⟩)
    | cons d w => exact .inl ⟨w, (List.cons.inj hcut).2⟩

theorem Chain.remainder (h : Chain u) (hw : w ≠ []) (hcut : u = w ++ c :: r)
    (hselector : c ≠ selector) (hjoiner : c ≠ joiner) : Chain (c :: r) := by
  induction h generalizing w with
  | @last e h =>
    rw [← List.append_nil e] at hcut
    rcases h.cut hw hcut with ⟨w', htail⟩ | hc | ⟨hc, rfl⟩
    · simp at htail
    · exact absurd hc hselector
    · exact .last (.emoji hc)
  | @link e u h rest ih =>
    rcases h.cut hw hcut with ⟨w', htail⟩ | hc | ⟨hc, rfl⟩
    · cases w' with
      | nil => exact absurd (List.cons.inj htail).1.symm hjoiner
      | cons d w' =>
        have htail := (List.cons.inj htail).2
        by_cases hw' : w' = []
        · subst hw'
          obtain rfl : u = c :: r := htail
          exact rest
        · exact ih hw' htail
    · exact absurd hc hselector
    · exact .link (.emoji hc) rest

/-- What remains of a unit is a unit if it begins with a character that is one. -/
theorem UnitText.remainder (h : UnitText x (w ++ c :: r)) (hw : w ≠ []) (hc : UnitText x [c]) :
    UnitText x (c :: r) := by
  have hne {d : Char} (hd : Span.covers trailing d.toNat = true) : c ≠ d := by
    rintro rfl
    exact not_unitText_of_trailing hd hc
  have hselector : c ≠ selector := hne (by decide)
  have hmark : c ≠ keycapMark := hne (by decide)
  generalize hcut : w ++ c :: r = u at h
  have hlength {n : Nat} (hn : u.length = n) : 1 < n := by
    have hpos := List.length_pos_iff.mpr hw
    rw [← hcut, List.length_append, List.length_cons] at hn
    omega
  cases h with
  | inClass => exact absurd (hlength rfl) (by simp)
  | presented => exact absurd (hlength rfl) (by simp)
  | chain hx h => exact .chain hx (h.remainder hw hcut.symm hselector (hne (by decide)))
  | @keycap k =>
    obtain ⟨d, w, rfl⟩ := List.exists_cons_of_ne_nil hw
    have hcut := (List.cons.inj hcut).2
    cases w with
    | nil => exact absurd (List.cons.inj hcut).1 hselector
    | cons d w =>
      have hcut := (List.cons.inj hcut).2
      cases w with
      | nil => exact absurd (List.cons.inj hcut).1 hmark
      | cons d w =>
        have hcut := (List.cons.inj hcut).2
        simp at hcut
  | @flag a b =>
    obtain ⟨d, w, rfl⟩ := List.exists_cons_of_ne_nil hw
    have hcut := (List.cons.inj hcut).2
    cases w with
    | nil =>
      obtain ⟨rfl, rfl⟩ := List.cons.inj hcut
      exact hc
    | cons d w =>
      have hcut := (List.cons.inj hcut).2
      simp at hcut
  | @tagged e tags hx h hne' htags =>
    rcases h.cut hw hcut.symm with ⟨w', htail⟩ | hc' | ⟨hc', rfl⟩
    · have hmem : c ∈ tags ++ [tagEnd] := by
        rw [htail]
        exact List.mem_append_right _ List.mem_cons_self
      rcases List.mem_append.mp hmem with htag | hend
      · exact absurd hc (not_unitText_of_trailing (trailing_of_isTag (htags c htag)))
      · exact absurd (List.mem_singleton.mp hend) (hne (by decide))
    · exact absurd hc' hselector
    · exact .tagged hx (.emoji hc') hne' htags

end Remainders

theorem UnitText.isBreakChar {u : List Char} (h : UnitText x u) :
    ∀ c ∈ u, isBreakChar c = false :=
  ((matches_node_iff x).mpr h).forall_mem (takesOnly_node x)

end Units

/-- A text begins with a unit if its first character is one. -/
theorem exists_unit_prefix_iff (x : Extensions) (after : List Char) :
    (∃ v, isUnit x v = true ∧ v <+: after) ↔ after.head?.any (fun c => isUnit x [c]) = true := by
  simp only [isUnit_iff_unitText, Option.any_eq_true]
  constructor
  · rintro ⟨v, hv, r, rfl⟩
    obtain ⟨c, t, rfl, hc⟩ := hv.exists_first
    exact ⟨c, rfl, hc⟩
  · rintro ⟨c, hhead, hc⟩
    obtain ⟨r, rfl⟩ := List.head?_eq_some_iff.mp hhead
    exact ⟨[c], hc, r, rfl⟩

end LineJoin
