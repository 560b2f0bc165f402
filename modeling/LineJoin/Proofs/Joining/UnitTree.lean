import LineJoin.Proofs.Joining.ClassText

/-!
# The tree of a unit

The pattern of a unit is read as `Units.branches`: the class of the characters that are units by
themselves and, if emoji are among the extensions, one branch for each kind of emoji. The branches
are functions of whether case is ignored.
-/

namespace LineJoin

open Pattern

namespace Units

variable {ρ : Type}

def propertyNode (p : Property) (i : Bool) : Node ρ := .char i (.property p true)

def codeNode (c : Nat) (i : Bool) : Node ρ := .char i (.code c)

/-- The characters that are units by themselves. -/
def classNode (x : Extensions) (i : Bool) : Node ρ :=
  .char i (.set true (classItems (properties x) (spans x)))

def presentationNode (i : Bool) : Node ρ := .seq (propertyNode .emoji i) (codeNode 0xFE0F i)

def modifierNode (i : Bool) : Node ρ :=
  .seq (propertyNode .emojiModifierBase i) (propertyNode .emojiModifier i)

/-- Digits, the number sign and the asterisk. -/
def keyItems : List SetItem := [.span 0x30 0x39, .code 0x23, .code 0x2A]

def keycapNode (i : Bool) : Node ρ :=
  .seq (.char i (.set true keyItems)) (.seq (codeNode 0xFE0F i) (codeNode 0x20E3 i))

def flagNode (i : Bool) : Node ρ :=
  .seq (propertyNode .regionalIndicator i) (propertyNode .regionalIndicator i)

def elementBranches : List (Bool → Node ρ) :=
  [propertyNode .emoji, presentationNode, modifierNode]

def elementNode (i : Bool) : Node ρ := .branches (elementBranches.map (· i))

def linkNode (i : Bool) : Node ρ := .seq (codeNode 0x200D i) (elementNode i)

def joinedNode (i : Bool) : Node ρ := .seq (elementNode i) (.repeated true 1 none (linkNode i))

def taggedBranches : List (Bool → Node ρ) :=
  [propertyNode .emoji, modifierNode, presentationNode]

def tagItems : List SetItem := [.span 0xE0020 0xE007E]

def tagNode (i : Bool) : Node ρ :=
  .seq (.branches (taggedBranches.map (· i)))
    (.seq (.repeated true 1 none (.char i (.set true tagItems))) (codeNode 0xE007F i))

def emojiBranches : List (Bool → Node ρ) :=
  [propertyNode .emojiPresentation, propertyNode .emoji, presentationNode, keycapNode,
    modifierNode, flagNode, joinedNode, tagNode]

def branches (x : Extensions) : List (Bool → Node ρ) :=
  classNode x :: if x.emoji then emojiBranches else []

/-- The tree of one unit. -/
def node (x : Extensions) (i : Bool) : Node ρ := .branches ((branches x).map (· i))

/-- The names of properties that stand alone in the pattern of an emoji. -/
def emojiProperties : List NamedProperty :=
  [⟨"Emoji", .emoji⟩, ⟨"Emoji_Presentation", .emojiPresentation⟩,
    ⟨"Emoji_Modifier", .emojiModifier⟩, ⟨"Emoji_Modifier_Base", .emojiModifierBase⟩,
    ⟨"Regional_Indicator", .regionalIndicator⟩]

end Units

/-- Names among which those in the pattern of a unit stand for the properties that are meant. -/
class KnowsUnits [CharacterNames] : Prop where
  scripts : ∀ p ∈ Units.baseProperties ++ Units.hangulProperties, p.Found
  emoji : ∀ p ∈ Units.emojiProperties, p.Found

namespace Units

section Standard

theorem found_script (value : List Char) {name : String} {p : Property}
    (hname : name.toList = ['s', 'c', 'x'] ++ '=' :: value)
    (hvalue : value.all isValuePart = true) (hgiven : strip value ≠ [])
    (h : Property.qualified? ['s', 'c', 'x'] (strip value) = .found p) :
    NamedProperty.Found ⟨name, p⟩ := by
  rw [NamedProperty.Found, hname]
  exact .qualified (.inr rfl) (List.all_eq_true.mp (by decide)) (List.all_eq_true.mp hvalue)
    hgiven h

theorem found_plain (text : List Char) {name : String} {p : Property} (hname : name.toList = text)
    (hparts : text.all isPropertyPart = true) (h : Property.named? text = some p) :
    NamedProperty.Found ⟨name, p⟩ := by
  rw [NamedProperty.Found, hname]
  exact .plain (List.all_eq_true.mp hparts) h

/-- The names with a table are such names. -/
instance : KnowsUnits where
  scripts := by
    simp only [baseProperties, hangulProperties, List.cons_append, List.nil_append,
      List.forall_mem_cons, List.not_mem_nil, false_implies, implies_true, and_true]
    refine ⟨?han, ?bopomofo, ?yi, ?hiragana, ?katakana, ?radical, ?hangul⟩
    case han => exact found_script ['H', 'a', 'n'] rfl (by decide) (by decide) rfl
    case bopomofo =>
      exact found_script ['B', 'o', 'p', 'o', 'm', 'o', 'f', 'o'] rfl (by decide) (by decide) rfl
    case yi => exact found_script ['Y', 'i'] rfl (by decide) (by decide) rfl
    case hiragana =>
      exact found_script ['H', 'i', 'r', 'a', 'g', 'a', 'n', 'a'] rfl (by decide) (by decide) rfl
    case katakana =>
      exact found_script ['K', 'a', 't', 'a', 'k', 'a', 'n', 'a'] rfl (by decide) (by decide) rfl
    case radical =>
      exact found_plain ['R', 'a', 'd', 'i', 'c', 'a', 'l'] rfl (by decide) (by decide +kernel)
    case hangul => exact found_script ['H', 'a', 'n', 'g', 'u', 'l'] rfl (by decide) (by decide) rfl
  emoji := by
    have hall : emojiProperties.all (fun p => p.name.toList.all isPropertyPart &&
        decide (Property.named? p.name.toList = some p.property)) = true := by
      decide +kernel
    intro p hp
    have hnamed := List.all_eq_true.mp hall p hp
    rw [Bool.and_eq_true, decide_eq_true_eq] at hnamed
    exact .plain (List.all_eq_true.mp hnamed.1) hnamed.2

end Standard

theorem spans_ordered (x : Extensions) : ∀ s ∈ spans x, s.low ≤ s.high ∧ s.high < 0x110000 := by
  intro s hs
  rcases List.mem_append.mp hs with hs | hs
  · exact (show ∀ s ∈ baseSpans, s.low ≤ s.high ∧ s.high < 0x110000 by decide) s hs
  · split at hs
    · exact (show ∀ s ∈ squaredSpans, s.low ≤ s.high ∧ s.high < 0x110000 by decide) s hs
    · cases hs

theorem toList_intercalate_bar (texts : List String) (hne : texts ≠ []) :
    '|' :: (String.intercalate "|" texts).toList = texts.flatMap fun t => '|' :: t.toList := by
  obtain ⟨first, more, rfl⟩ := List.exists_cons_of_ne_nil hne
  rw [String.toList_intercalate]
  induction more generalizing first with
  | nil => simp
  | cons t more ih =>
    rw [List.map_cons, List.map_cons, List.intercalate_cons_cons, List.flatMap_cons,
      ← ih t (List.cons_ne_nil t more), List.map_cons]
    simp

/-- The branches of the kinds of emoji with their texts. -/
def emojiPieces : List (String × List (Bool → Node Ref)) :=
  [(propertyText "Emoji_Presentation", [propertyNode .emojiPresentation]),
    (propertyText "Emoji", [propertyNode .emoji]),
    (presentationSequence, [propertyNode .emoji, codeNode 0xFE0F]),
    (keycapSequence,
      [fun i => .char i (.set true keyItems), codeNode 0xFE0F, codeNode 0x20E3]),
    (modifierSequence, [propertyNode .emojiModifierBase, propertyNode .emojiModifier]),
    (flagSequence, [propertyNode .regionalIndicator, propertyNode .regionalIndicator]),
    (joinedSequence, [elementNode, fun i => .repeated true 1 none (linkNode i)]),
    (tagSequence, [fun i => .branches (taggedBranches.map (· i)),
      fun i => .repeated true 1 none (.char i (.set true tagItems)), codeNode 0xE007F])]

/-- What follows the base class in the pattern of a unit. -/
def moreText (x : Extensions) : List Char :=
  if x.emoji then emojiPieces.flatMap fun p => '|' :: p.1.toList else []

theorem unitText_toList (x : Extensions) :
    (unitText x).toList = (baseText x).toList ++ moreText x := by
  rw [unitText, moreText]
  split
  · have htexts : emojiText = String.intercalate "|" (emojiPieces.map (·.1)) := rfl
    have hmore := toList_intercalate_bar (emojiPieces.map (·.1)) (List.cons_ne_nil _ _)
    rw [List.flatMap_map, ← htexts] at hmore
    rw [String.toList_append, String.toList_append, List.append_assoc, ← hmore]
    rfl
  · exact (List.append_nil _).symm

variable [CharacterNames]

theorem readsElement_code {digits : List Char} {c : Nat} (hlength : digits.length = 4)
    (hdigits : digits.all (fun c => (Span.hexValue? c).isSome) = true)
    (hvalue : Span.hexNumber digits = c) (hc : c < 0x110000) :
    ReadsElement ('\\' :: 'u' :: digits) (codeNode c) := by
  have hread := readsElement_hex (.inl ⟨rfl, hlength⟩) (List.all_eq_true.mp hdigits) (hvalue ▸ hc)
  rw [hvalue] at hread
  exact hread

theorem readsElement_selector :
    ReadsElement ['\\', 'u', 'F', 'E', '0', 'F'] (codeNode 0xFE0F) :=
  readsElement_code rfl (by decide) (by decide) (by decide)

theorem readsElement_keys :
    ReadsElement ['[', '0', '-', '9', '#', '*', ']'] fun i => .char i (.set true keyItems) := by
  have hdigits : ReadsMember ['0', '-', '9'] (.span 0x30 0x39) :=
    readsMember_span (readsCode_literal (c := '0') (by decide) (by decide))
      (readsCode_literal (c := '9') (by decide) (by decide)) (by decide) (by decide)
  have hsign : ReadsMember ['#'] (.code 0x23) :=
    readsMember_code (readsCode_literal (c := '#') (by decide) (by decide))
  have hasterisk : ReadsMember ['*'] (.code 0x2A) :=
    readsMember_code (readsCode_literal (c := '*') (by decide) (by decide))
  have hmembers : ReadsMembers ['0', '-', '9', '#', '*'] keyItems :=
    readsMembers_cons hdigits
      (readsMembers_cons hsign (readsMembers_single hasterisk) (by decide) (by decide))
      (by decide) (by decide)
  exact readsElement_set hmembers (by decide) (by decide)

/-- Three branches in parentheses that are not counted. -/
theorem readsElement_three {a b c : String} {as bs cs : List (Bool → Node Ref)}
    (ha : ReadsSequence a.toList as) (hb : ReadsSequence b.toList bs)
    (hc : ReadsSequence c.toList cs) :
    ReadsElement ("(?:" ++ a ++ "|" ++ b ++ "|" ++ c ++ ")").toList fun i =>
      .branches [.sequence (as.map (· i)), .sequence (bs.map (· i)), .sequence (cs.map (· i))] := by
  obtain ⟨hmore, hbar, hlen⟩ := readsBranches_flatMap [(b.toList, bs), (c.toList, cs)]
    (by simp [hb, hc])
  have hread := readsElement_group (readsAlternatives_of ha hbar hmore hlen)
  have htext : ("(?:" ++ a ++ "|" ++ b ++ "|" ++ c ++ ")").toList = '(' :: '?' :: ':' ::
      (a.toList ++ ([(b.toList, bs), (c.toList, cs)].flatMap fun p => '|' :: p.1) ++ [')']) := by
    simp [String.toList_append]
  rw [htext]
  exact hread

theorem readsElement_tags :
    ReadsElement "[\\U000E0020-\\U000E007E]".toList fun i => .char i (.set true tagItems) := by
  have hlow : ReadsCode ('\\' :: 'U' :: "000E0020".toList) 0xE0020 :=
    readsCode_hex (.inr ⟨rfl, rfl⟩) (List.all_eq_true.mp (by decide)) (by decide)
  have hhigh : ReadsCode ('\\' :: 'U' :: "000E007E".toList) 0xE007E :=
    readsCode_hex (.inr ⟨rfl, rfl⟩) (List.all_eq_true.mp (by decide)) (by decide)
  have hmembers : ReadsMembers
      (('\\' :: 'U' :: "000E0020".toList) ++ '-' :: '\\' :: 'U' :: "000E007E".toList) tagItems :=
    readsMembers_single (readsMember_span hlow hhigh (by decide) (by decide))
  exact readsElement_set hmembers (by decide) (by decide +kernel)

theorem readsSequence_keycap : ReadsSequence keycapSequence.toList
    [fun i => .char i (.set true keyItems), codeNode 0xFE0F, codeNode 0x20E3] := by
  have hmark : ReadsElement ['\\', 'u', '2', '0', 'E', '3'] (codeNode 0x20E3) :=
    readsElement_code rfl (by decide) (by decide) (by decide)
  exact readsSequence_cons (by simp) readsElement_keys
    (readsSequence_cons (by simp) readsElement_selector (readsSequence_one (by simp) hmark))

variable [KnowsUnits]

theorem found_properties (x : Extensions) : ∀ p ∈ properties x, p.Found := by
  intro p hp
  refine KnowsUnits.scripts p ?_
  rcases List.mem_append.mp hp with hp | hp
  · exact List.mem_append_left _ hp
  · split at hp
    · exact List.mem_append_right _ hp
    · cases hp

theorem readsSequence_baseText (x : Extensions) :
    ReadsSequence (baseText x).toList [classNode x] := by
  obtain ⟨text, htext, hne, hread⟩ := readsElement_classText (found_properties x)
    (spans_ordered x) (by simp [classPieces, spans, baseSpans])
  rw [baseText, htext]
  exact readsSequence_one hne hread

section Emoji

theorem readsElement_propertyText {name : String} {p : Property}
    (hp : ⟨name, p⟩ ∈ emojiProperties) :
    ReadsElement (propertyText name).toList (propertyNode p) := by
  have hall : emojiProperties.all (fun p => p.name.toList.all visible) = true := by decide +kernel
  rw [propertyText_toList]
  exact readsElement_property (KnowsUnits.emoji _ hp)
    (List.all_eq_true.mp (List.all_eq_true.mp hall _ hp))

theorem readsElement_emoji : ReadsElement (propertyText "Emoji").toList (propertyNode .emoji) :=
  readsElement_propertyText (.head _)

theorem readsElement_presentation :
    ReadsElement (propertyText "Emoji_Presentation").toList (propertyNode .emojiPresentation) :=
  readsElement_propertyText (.tail _ (.head _))

theorem readsElement_modifier :
    ReadsElement (propertyText "Emoji_Modifier").toList (propertyNode .emojiModifier) :=
  readsElement_propertyText (.tail _ (.tail _ (.head _)))

theorem readsElement_modifierBase :
    ReadsElement (propertyText "Emoji_Modifier_Base").toList (propertyNode .emojiModifierBase) :=
  readsElement_propertyText (.tail _ (.tail _ (.tail _ (.head _))))

theorem readsElement_regional :
    ReadsElement (propertyText "Regional_Indicator").toList (propertyNode .regionalIndicator) :=
  readsElement_propertyText (.tail _ (.tail _ (.tail _ (.tail _ (.head _)))))

theorem readsSequence_presentation :
    ReadsSequence presentationSequence.toList [propertyNode .emoji, codeNode 0xFE0F] := by
  rw [presentationSequence, String.toList_append]
  exact readsSequence_cons (by simp [propertyText_toList]) readsElement_emoji
    (readsSequence_one (by simp) readsElement_selector)

theorem readsSequence_modifier : ReadsSequence modifierSequence.toList
    [propertyNode .emojiModifierBase, propertyNode .emojiModifier] := by
  rw [modifierSequence, String.toList_append]
  exact readsSequence_cons (by simp [propertyText_toList]) readsElement_modifierBase
    (readsSequence_one (by simp [propertyText_toList]) readsElement_modifier)

theorem readsSequence_flag : ReadsSequence flagSequence.toList
    [propertyNode .regionalIndicator, propertyNode .regionalIndicator] := by
  rw [flagSequence, String.toList_append]
  exact readsSequence_cons (by simp [propertyText_toList]) readsElement_regional
    (readsSequence_one (by simp [propertyText_toList]) readsElement_regional)

theorem readsSequence_emoji : ReadsSequence (propertyText "Emoji").toList [propertyNode .emoji] :=
  readsSequence_one (by simp [propertyText_toList]) readsElement_emoji

theorem readsElement_element : ReadsElement joinedElement.toList elementNode :=
  readsElement_three readsSequence_emoji readsSequence_presentation readsSequence_modifier

theorem readsElement_tagged :
    ReadsElement ("(?:" ++ propertyText "Emoji" ++ "|" ++ modifierSequence ++ "|" ++
      presentationSequence ++ ")").toList fun i => .branches (taggedBranches.map (· i)) :=
  readsElement_three readsSequence_emoji readsSequence_modifier readsSequence_presentation

theorem readsElement_link :
    ReadsElement ("(?:\\u200D" ++ joinedElement ++ ")").toList linkNode := by
  have hjoiner : ReadsElement ['\\', 'u', '2', '0', '0', 'D'] (codeNode 0x200D) :=
    readsElement_code rfl (by decide) (by decide) (by decide)
  have hsequence := readsSequence_cons (by simp) hjoiner
    (readsSequence_one (by simp [joinedElement]) readsElement_element)
  have hread := readsElement_group
    (readsAlternatives_of hsequence (.inl rfl) readsBranches_nil (Nat.le_refl 0))
  have htext : ("(?:\\u200D" ++ joinedElement ++ ")").toList = '(' :: '?' :: ':' ::
      (['\\', 'u', '2', '0', '0', 'D'] ++ joinedElement.toList ++ [] ++ [')']) := by
    simp [String.toList_append]
  rw [htext]
  exact hread

theorem readsSequence_joined : ReadsSequence joinedSequence.toList
    [elementNode, fun i => .repeated true 1 none (linkNode i)] := by
  have hlinks := readsSequence_plus (by simp) readsElement_link (fun _ => rfl) readsSequence_nil
    (.inl rfl)
  have hread := readsSequence_cons (by simp [joinedElement]) readsElement_element hlinks
  have htext : joinedSequence.toList = joinedElement.toList ++
      (("(?:\\u200D" ++ joinedElement ++ ")").toList ++ ['+']) := by
    simp [joinedSequence, String.toList_append]
  rw [htext]
  exact hread

theorem readsSequence_tag : ReadsSequence tagSequence.toList
    [fun i => .branches (taggedBranches.map (· i)),
      fun i => .repeated true 1 none (.char i (.set true tagItems)), codeNode 0xE007F] := by
  have hend : ReadsElement ('\\' :: 'U' :: "000E007F".toList) (codeNode 0xE007F) :=
    readsElement_hex (.inr ⟨rfl, rfl⟩) (List.all_eq_true.mp (by decide)) (by decide)
  have htags := readsSequence_plus (by simp) readsElement_tags (fun _ => rfl)
    (readsSequence_one (by simp) hend)
    (.inr ⟨'\\', 'U' :: "000E007F".toList, rfl, by decide, by decide, by decide⟩)
  have hread := readsSequence_cons (by simp) readsElement_tagged htags
  have htext : tagSequence.toList = ("(?:" ++ propertyText "Emoji" ++ "|" ++ modifierSequence ++
      "|" ++ presentationSequence ++ ")").toList ++
        ("[\\U000E0020-\\U000E007E]".toList ++ '+' :: '\\' :: 'U' :: "000E007F".toList) := by
    rw [tagSequence, String.toList_append]
    rfl
  rw [htext]
  exact hread

theorem emojiPieces_read : ∀ p ∈ emojiPieces, ReadsSequence p.1.toList p.2 := by
  have hpresentation : ReadsSequence (propertyText "Emoji_Presentation").toList
      [propertyNode .emojiPresentation] :=
    readsSequence_one (by simp [propertyText_toList]) readsElement_presentation
  simp only [emojiPieces, List.forall_mem_cons, List.not_mem_nil, false_implies, implies_true,
    and_true]
  exact ⟨hpresentation, readsSequence_emoji, readsSequence_presentation, readsSequence_keycap,
    readsSequence_modifier, readsSequence_flag, readsSequence_joined, readsSequence_tag⟩

end Emoji

theorem readsBranches_moreText (x : Extensions) :
    ReadsBranches (moreText x) (if x.emoji then emojiBranches else []) ∧ Barred (moreText x) ∧
      ((if x.emoji then emojiBranches else []) : List (Bool → Node Ref)).length ≤
        (moreText x).length := by
  rw [moreText]
  split
  · have hread := readsBranches_flatMap (emojiPieces.map fun p => (p.1.toList, p.2))
      (by
        intro p hp
        obtain ⟨q, hq, rfl⟩ := List.mem_map.mp hp
        exact emojiPieces_read q hq)
    rw [List.flatMap_map, List.length_map] at hread
    exact hread
  · exact ⟨readsBranches_nil, .inl rfl, Nat.le_refl 0⟩

/-- The pattern of a unit is read as its tree. -/
theorem readsAlternatives_unitText (x : Extensions) :
    ReadsAlternatives (unitText x).toList (branches x) := by
  obtain ⟨hread, hbar, hlen⟩ := readsBranches_moreText x
  rw [unitText_toList]
  exact readsAlternatives_of (readsSequence_baseText x) hbar hread hlen

end Units

end LineJoin
