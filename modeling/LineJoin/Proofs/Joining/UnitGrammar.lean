import LineJoin.Proofs.Joining.UnitTexts

/-!
# The grammar of units

A unit is a character that has a property of the tables or lies in one of their spans or, if emoji
are units, one of the kinds of emoji that `EmojiText` lists by the characters they are made of. The
pattern of a unit is pieced together from texts with alternatives that overlap; `isUnit_iff_grammar`
says that it recognises exactly these texts.
-/

namespace LineJoin

namespace Units

/-- A character has a property of the tables or lies in one of their spans. -/
def InTables (x : Extensions) (c : Char) : Prop :=
  (∃ p ∈ baseProperties, has p.property c = true) ∨
    (x.hangul = true ∧ ∃ p ∈ hangulProperties, has p.property c = true) ∨
    (∃ s ∈ baseSpans, s.low ≤ c.toNat ∧ c.toNat ≤ s.high) ∨
    (x.squared = true ∧ ∃ s ∈ squaredSpans, s.low ≤ c.toNat ∧ c.toNat ≤ s.high)

/-- The kinds of emoji. A joined emoji has at least two elements with joiners between them. -/
inductive EmojiText : List Char → Prop where
  | presented {c : Char} (h : has .emojiPresentation c = true) : EmojiText [c]
  | emoji {c : Char} (h : has .emoji c = true) : EmojiText [c]
  | presentation {c : Char} (h : has .emoji c = true) : EmojiText [c, '\uFE0F']
  | keycap {c : Char} (h : c.isDigit = true ∨ c = '#' ∨ c = '*') :
      EmojiText [c, '\uFE0F', '\u20E3']
  | modifier {b m : Char} (hb : has .emojiModifierBase b = true)
      (hm : has .emojiModifier m = true) : EmojiText [b, m]
  | flag {a b : Char} (ha : has .regionalIndicator a = true)
      (hb : has .regionalIndicator b = true) : EmojiText [a, b]
  | joined {es : List (List Char)} (htwo : 2 ≤ es.length) (hes : ∀ e ∈ es, Element e) :
      EmojiText (['\u200D'].intercalate es)
  | tagged {e tags : List Char} {z : Char} (h : Element e) (hne : tags ≠ [])
      (htags : ∀ c ∈ tags, 0xE0020 ≤ c.toNat ∧ c.toNat ≤ 0xE007E) (hz : z.toNat = 0xE007F) :
      EmojiText (e ++ tags ++ [z])

theorem inClass_iff_inTables {x : Extensions} {c : Char} : inClass x c = true ↔ InTables x c := by
  have hproperties : (∃ p ∈ properties x, has p.property c = true) ↔
      (∃ p ∈ baseProperties, has p.property c = true) ∨
        (x.hangul = true ∧ ∃ p ∈ hangulProperties, has p.property c = true) := by
    rw [properties]
    cases x.hangul <;> simp [or_and_right, exists_or]
  have hspans : (∃ s ∈ spans x, s.low ≤ c.toNat ∧ c.toNat ≤ s.high) ↔
      (∃ s ∈ baseSpans, s.low ≤ c.toNat ∧ c.toNat ≤ s.high) ∨
        (x.squared = true ∧ ∃ s ∈ squaredSpans, s.low ≤ c.toNat ∧ c.toNat ≤ s.high) := by
    rw [spans]
    cases x.squared <;> simp only [List.mem_append, or_and_right, exists_or] <;> simp
  rw [inClass_iff, hproperties, Span.covers_iff, hspans, InTables, or_assoc]

theorem isKey_iff_digit {c : Char} : isKey c = true ↔ c.isDigit = true ∨ c = '#' ∨ c = '*' := by
  have hcode (d : Char) : c = d ↔ c.toNat = d.toNat := Char.toNat_inj.symm
  rw [isKey_iff, Char.isDigit, hcode, hcode, Bool.and_eq_true, decide_eq_true_eq, decide_eq_true_eq]
  rfl

/-- A chain is a list of elements with joiners between them. -/
theorem chain_iff_intercalate {t : List Char} : Chain t ↔
    ∃ es : List (List Char), es ≠ [] ∧ (∀ e ∈ es, Element e) ∧ t = [joiner].intercalate es := by
  constructor
  · intro h
    induction h with
    | @last e he => exact ⟨[e], List.cons_ne_nil _ _, List.forall_mem_singleton.mpr he, by simp⟩
    | @link e u he _ ih =>
      obtain ⟨es, hne, hes, rfl⟩ := ih
      refine ⟨e :: es, List.cons_ne_nil _ _, List.forall_mem_cons.mpr ⟨he, hes⟩, ?_⟩
      rw [List.intercalate_cons_of_ne_nil hne]
      simp
  · rintro ⟨es, hne, hes, rfl⟩
    induction es with
    | nil => exact absurd rfl hne
    | cons e es ih =>
      obtain ⟨he, hes⟩ := List.forall_mem_cons.mp hes
      by_cases hnil : es = []
      · subst hnil
        simpa using Chain.last he
      · rw [List.intercalate_cons_of_ne_nil hnil, List.append_assoc]
        exact .link he (ih hnil hes)

/-- A chain of one element is an emoji, one with a sign behind it, or one with a modifier. -/
theorem Element.emojiText {e : List Char} (h : Element e) : EmojiText e := by
  cases h with
  | emoji h => exact .emoji h
  | presentation h => exact .presentation h
  | modifier hb hm => exact .modifier hb hm

theorem Chain.emojiText {t : List Char} (h : Chain t) : EmojiText t := by
  obtain ⟨es, hne, hes, rfl⟩ := chain_iff_intercalate.mp h
  cases es with
  | nil => exact absurd rfl hne
  | cons e es =>
    cases es with
    | nil => simpa using (hes e List.mem_cons_self).emojiText
    | cons f es => exact .joined (Nat.le_add_left 2 es.length) hes

/-- The units besides the characters of the tables are the kinds of emoji. -/
theorem unitText_iff {x : Extensions} {t : List Char} :
    UnitText x t ↔ (∃ c, t = [c] ∧ InTables x c) ∨ (x.emoji = true ∧ EmojiText t) := by
  constructor
  · intro h
    cases h with
    | inClass h => exact .inl ⟨_, rfl, inClass_iff_inTables.mp h⟩
    | presented hx h => exact .inr ⟨hx, .presented h⟩
    | chain hx h => exact .inr ⟨hx, h.emojiText⟩
    | keycap hx h => exact .inr ⟨hx, .keycap (isKey_iff_digit.mp h)⟩
    | flag hx ha hb => exact .inr ⟨hx, .flag ha hb⟩
    | tagged hx h hne htags =>
      rw [← List.append_assoc]
      exact .inr ⟨hx, .tagged h hne (fun c hc => isTag_iff.mp (htags c hc)) (by decide)⟩
  · rintro (⟨c, rfl, h⟩ | ⟨hx, h⟩)
    · exact .inClass (inClass_iff_inTables.mpr h)
    · cases h with
      | presented h => exact .presented hx h
      | emoji h => exact .chain hx (.last (.emoji h))
      | presentation h => exact .chain hx (.last (.presentation h))
      | keycap h => exact .keycap hx (isKey_iff_digit.mpr h)
      | modifier hb hm => exact .chain hx (.last (.modifier hb hm))
      | flag ha hb => exact .flag hx ha hb
      | @joined es htwo hes =>
        have hne : es ≠ [] := List.ne_nil_of_length_pos (by omega)
        exact .chain hx (chain_iff_intercalate.mpr ⟨es, hne, hes, rfl⟩)
      | @tagged e tags z h hne htags hz =>
        obtain rfl : z = tagEnd := Char.toNat_inj.mp (hz.trans (by decide))
        rw [List.append_assoc]
        exact .tagged hx h hne fun c hc => isTag_iff.mpr (htags c hc)

end Units

/-- A text is recognised as a unit exactly if it is one character of the tables or, if emoji are
units, one emoji. -/
theorem isUnit_iff_grammar (x : Extensions) (t : List Char) : isUnit x t = true ↔
    (∃ c, t = [c] ∧ Units.InTables x c) ∨ (x.emoji = true ∧ Units.EmojiText t) := by
  rw [isUnit_iff_unitText, Units.unitText_iff]

end LineJoin
