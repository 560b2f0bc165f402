import LineJoin.Proofs.Joining.Idempotence
import LineJoin.Proofs.Joining.UnitGrammar

/-!
# The ends of emoji

A text ends with an emoji as soon as it ends with the last few characters of one. Every emoji begins with
a character that is an emoji by itself, the second half of a flag is one, and so is a modifier, so a
joined emoji, a flag and an emoji with a modifier are seen by their last character. Only three signs
come last that are no emoji, and each of them needs a fixed kind of text before it.
-/

namespace LineJoin

namespace Units

/-- A character of the tables or an emoji of one character, and what ends with a sign that is neither:
an emoji shown as a picture, a key, and an emoji with tags. -/
inductive EmojiEnd (x : Extensions) : List Char → Prop where
  | char {c : Char} (h : InTables x c ∨ has .emoji c = true) : EmojiEnd x [c]
  | presentation {c : Char} (h : has .emoji c = true) : EmojiEnd x [c, '\uFE0F']
  | keycap {c : Char} (h : c.isDigit = true ∨ c = '#' ∨ c = '*') :
      EmojiEnd x [c, '\uFE0F', '\u20E3']
  | tagged {c z : Char} {e tags : List Char} (h : has .emoji c = true)
      (he : e = [c] ∨ e = [c, '\uFE0F']) (hne : tags ≠ [])
      (htags : ∀ t ∈ tags, 0xE0020 ≤ t.toNat ∧ t.toNat ≤ 0xE007E) (hz : z.toNat = 0xE007F) :
      EmojiEnd x (e ++ tags ++ [z])

variable {x : Extensions}

/-- An element is seen by its last emoji character, with the sign for a picture after it or without. -/
theorem Element.exists_last {e : List Char} (h : Element e) :
    ∃ c u, has .emoji c = true ∧ (u = [c] ∨ u = [c, selector]) ∧ u <:+ e := by
  cases h with
  | emoji h => exact ⟨_, _, h, .inl rfl, List.suffix_refl _⟩
  | presentation h => exact ⟨_, _, h, .inr rfl, List.suffix_refl _⟩
  | modifier _ hm => exact ⟨_, _, emoji_of_modifier hm, .inl rfl, List.suffix_cons _ _⟩

theorem Chain.exists_element {u : List Char} (h : Chain u) : ∃ e, Element e ∧ e <:+ u := by
  induction h with
  | last h => exact ⟨_, h, List.suffix_refl _⟩
  | @link e u _ _ ih =>
    obtain ⟨f, hf, hsuffix⟩ := ih
    exact ⟨f, hf, hsuffix.trans ((List.suffix_cons joiner u).trans (List.suffix_append e _))⟩

theorem UnitText.exists_emojiEnd {u : List Char} (h : UnitText x u) :
    ∃ v, EmojiEnd x v ∧ v <:+ u := by
  cases h with
  | inClass h => exact ⟨_, .char (.inl (inClass_iff_inTables.mp h)), List.suffix_refl _⟩
  | presented _ h => exact ⟨_, .char (.inr (emoji_of_presented h)), List.suffix_refl _⟩
  | chain _ h =>
    obtain ⟨e, he, hsuffix⟩ := h.exists_element
    obtain ⟨c, v, hc, rfl | rfl, hv⟩ := he.exists_last
    · exact ⟨_, .char (.inr hc), hv.trans hsuffix⟩
    · exact ⟨_, .presentation hc, hv.trans hsuffix⟩
  | keycap _ h => exact ⟨_, .keycap (isKey_iff_digit.mp h), List.suffix_refl _⟩
  | flag _ _ hb =>
    exact ⟨_, .char (.inr (emoji_of_regionalIndicator hb)), List.suffix_cons _ _⟩
  | @tagged e tags _ h hne htags =>
    obtain ⟨c, v, hc, hv, r, rfl⟩ := h.exists_last
    have hends := EmojiEnd.tagged (x := x) (z := tagEnd) hc hv hne
      (fun t ht => isTag_iff.mp (htags t ht)) (by decide)
    exact ⟨_, hends, r, by simp only [List.append_assoc]⟩

theorem EmojiEnd.unitText (hx : x.emoji = true) {u : List Char} (h : EmojiEnd x u) :
    UnitText x u := by
  rw [unitText_iff]
  cases h with
  | char h =>
    rcases h with h | h
    · exact .inl ⟨_, rfl, h⟩
    · exact .inr ⟨hx, .emoji h⟩
  | presentation h => exact .inr ⟨hx, .presentation h⟩
  | keycap h => exact .inr ⟨hx, .keycap h⟩
  | tagged h he hne htags hz =>
    rcases he with rfl | rfl
    · exact .inr ⟨hx, .tagged (.emoji h) hne htags hz⟩
    · exact .inr ⟨hx, .tagged (.presentation h) hne htags hz⟩

/-- Whether a text ends with a unit is seen by its last characters. -/
theorem exists_emojiEnd_suffix_iff (hx : x.emoji = true) (t : List Char) :
    (∃ u, UnitText x u ∧ u <:+ t) ↔ ∃ u, EmojiEnd x u ∧ u <:+ t := by
  constructor
  · rintro ⟨u, hu, hsuffix⟩
    obtain ⟨v, hv, hend⟩ := hu.exists_emojiEnd
    exact ⟨v, hv, hend.trans hsuffix⟩
  · rintro ⟨u, hu, hsuffix⟩
    exact ⟨u, hu.unitText hx, hsuffix⟩

/-- Whether emoji are shown as pictures by themselves makes no difference. -/
theorem unitText_char_iff (hx : x.emoji = true) {c : Char} :
    UnitText x [c] ↔ InTables x c ∨ has .emoji c = true := by
  rw [unitText_singleton_iff, inClass_iff_inTables]
  refine or_congr_right ⟨?_, fun h => ⟨hx, .inr h⟩⟩
  rintro ⟨-, h | h⟩
  · exact emoji_of_presented h
  · exact h

end Units

/-- With emoji as units and without additional rules a break goes exactly if the text before it has
one of the ends and the character after it is in the tables or an emoji. -/
theorem removeBreaks_emojiEnds {data : Value} {o : Options} {records : List Record}
    (ho : (Options.ofValue data).outcome = (.ok o, records))
    (hemoji : o.extensions.emoji = true) (hrules : o.additionalRules = []) (text : String) :
    (removeBreaks (.str text) data).outcome =
        (.ok (String.ofList (deleteWhere (unitsAround o.extensions) [] text.toList)), records) ∧
      ∀ before next, unitsAround o.extensions before next = true ↔
        (∃ u, Units.EmojiEnd o.extensions u ∧ u <:+ before.reverse) ∧
          ∃ c, next = some c ∧
            (Units.InTables o.extensions c ∨ Units.has .emoji c = true) := by
  obtain ⟨ps, hps, hdelete⟩ := rewriteText_units hrules
  refine ⟨removeBreaks_deleteWhere ho hps hdelete text, fun before next => ?_⟩
  rw [unitsAround_iff, Units.exists_emojiEnd_suffix_iff hemoji]
  simp only [Units.unitText_char_iff hemoji]

/-- After an emoji with tags, one with a modifier and a key breaks go, but not next to a letter. -/
theorem removeBreaks_emojiEnds_signs :
    let data : Value := .dict [(.str "includeEmoji", .bool true)]
    let o : Options := { extensions := { emoji := true } }
    let text : List Char := ['🏴', Char.ofNat 0xE0067, Units.tagEnd, '\n', '👍', '🏽', '\r', '\n',
      '1', '\uFE0F', '\u20E3', '\r', '字', '\n', 'a']
    let out : List Char := ['🏴', Char.ofNat 0xE0067, Units.tagEnd, '👍', '🏽', '1', '\uFE0F',
      '\u20E3', '字', '\n', 'a']
    (Options.ofValue data).outcome = (.ok o, []) ∧ o.extensions.emoji = true ∧
      o.additionalRules = [] ∧
      (removeBreaks (.str (String.ofList text)) data).outcome = (.ok (String.ofList out), []) := by
  intro data o text out
  have ho : (Options.ofValue data).outcome = (.ok o, []) := by rfl
  have hunits : unitsAround o.extensions = fun before next =>
      before.reverse.tails.any (Units.node o.extensions false).matchesAll &&
        next.any fun c => (Units.node o.extensions false).matchesAll [c] := by
    funext before next
    rw [unitsAround, funext (isUnit_eq o.extensions)]
  have hout : deleteWhere (unitsAround o.extensions) [] text = out := by
    rw [hunits]
    decide +kernel
  refine ⟨ho, rfl, rfl, ?_⟩
  rw [(removeBreaks_emojiEnds ho rfl rfl (String.ofList text)).1, String.toList_ofList, hout]

end LineJoin
