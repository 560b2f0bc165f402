import LineJoin.Pattern.Search
import LineJoin.Pattern.Reader
import LineJoin.Text.Quoted

/-!
# Units

A unit is what may stand on both sides of a line break that is removed: a character written without
spaces between words, or an emoji. The tables say which characters the properties of scripts leave
out. `unitText` writes the pattern that matches exactly one unit, `isUnit` matches it.
-/

namespace LineJoin

/-- Which kinds of characters count as units besides those of the base table. -/
structure Extensions where
  hangul : Bool := false
  emoji : Bool := false
  squared : Bool := false
deriving DecidableEq, Repr

def Extensions.union (x y : Extensions) : Extensions :=
  ⟨x.hangul || y.hangul, x.emoji || y.emoji, x.squared || y.squared⟩

namespace Units

/-- A property with the name it has in patterns. -/
structure NamedProperty where
  name : String
  property : Property

def baseProperties : List NamedProperty :=
  [⟨"scx=Han", .scriptExtension .han⟩, ⟨"scx=Bopomofo", .scriptExtension .bopomofo⟩,
    ⟨"scx=Yi", .scriptExtension .yi⟩, ⟨"scx=Hiragana", .scriptExtension .hiragana⟩,
    ⟨"scx=Katakana", .scriptExtension .katakana⟩, ⟨"Radical", .radical⟩]

def hangulProperties : List NamedProperty := [⟨"scx=Hangul", .scriptExtension .hangul⟩]

/-- Characters that the properties do not cover: signs and marks, circled numbers, squared words,
vertical, small and full width forms. -/
def baseSpans : List Span :=
  [⟨0x3004, 0x3004⟩, ⟨0x3012, 0x3012⟩, ⟨0x3020, 0x3020⟩, ⟨0x3036, 0x3036⟩, ⟨0x3248, 0x324F⟩,
    ⟨0x3248, 0x325F⟩, ⟨0x327F, 0x327F⟩, ⟨0x32B1, 0x32BF⟩, ⟨0x1F201, 0x1F202⟩, ⟨0x1F210, 0x1F23B⟩,
    ⟨0x1F240, 0x1F248⟩, ⟨0x1F260, 0x1F265⟩, ⟨0xFE30, 0xFE44⟩, ⟨0xFE47, 0xFE4F⟩, ⟨0xFF01, 0xFF60⟩,
    ⟨0xFFE0, 0xFFE6⟩, ⟨0xFE50, 0xFE52⟩, ⟨0xFE54, 0xFE66⟩, ⟨0xFE68, 0xFE6B⟩, ⟨0xFE10, 0xFE12⟩,
    ⟨0xFE17, 0xFE18⟩]

/-- Latin abbreviations written in one square. -/
def squaredSpans : List Span :=
  [⟨0x3250, 0x3250⟩, ⟨0x32CC, 0x32CF⟩, ⟨0x3371, 0x337A⟩, ⟨0x3380, 0x33DF⟩, ⟨0x33FF, 0x33FF⟩]

def properties (x : Extensions) : List NamedProperty :=
  baseProperties ++ if x.hangul then hangulProperties else []

def spans (x : Extensions) : List Span :=
  baseSpans ++ if x.squared then squaredSpans else []

/-- A property in a pattern. -/
def propertyText (name : String) : String := "\\p\x7b" ++ name ++ "\x7d"

def capitalHex (width n : Nat) : String :=
  String.ofList ((hexDigits width n).map Char.toUpper)

/-- A code point in a pattern, in four or eight digits. -/
def codeText (c : Nat) : String :=
  if 0xFFFF < c then "\\U" ++ capitalHex 8 c else "\\u" ++ capitalHex 4 c

def spanText (s : Span) : String :=
  if s.low = s.high then codeText s.low else codeText s.low ++ "-" ++ codeText s.high

/-- A span whose ends are the wrong way round. -/
structure BadSpan where
  span : Span
deriving DecidableEq, Repr

def BadSpan.message (b : BadSpan) : String :=
  "Invalid code point range: U+" ++ capitalHex 4 b.span.low ++ " > U+" ++ capitalHex 4 b.span.high

/-- The bracket class of some properties and spans. -/
def classText (names : List String) (spans : List Span) : Except BadSpan String :=
  match spans.find? fun s => s.high < s.low with
  | some s => .error ⟨s⟩
  | none => .ok ("[" ++ String.join (names.map propertyText) ++ String.join (spans.map spanText) ++ "]")

/-- The class of the characters that are units by themselves. -/
def baseText (x : Extensions) : String :=
  match classText ((properties x).map (·.name)) (spans x) with
  | .ok text => text
  | .error _ => "[]"

def modifierSequence : String :=
  propertyText "Emoji_Modifier_Base" ++ propertyText "Emoji_Modifier"

def presentationSequence : String := propertyText "Emoji" ++ "\\uFE0F"

def keycapSequence : String := "[0-9#*]\\uFE0F\\u20E3"

def flagSequence : String :=
  propertyText "Regional_Indicator" ++ propertyText "Regional_Indicator"

/-- What stands between the joiners of a joined emoji. -/
def joinedElement : String :=
  "(?:" ++ propertyText "Emoji" ++ "|" ++ presentationSequence ++ "|" ++ modifierSequence ++ ")"

def joinedSequence : String := joinedElement ++ "(?:\\u200D" ++ joinedElement ++ ")+"

/-- An emoji with tag characters and the sign that ends them. -/
def tagSequence : String :=
  "(?:" ++ propertyText "Emoji" ++ "|" ++ modifierSequence ++ "|" ++ presentationSequence ++ ")" ++
    "[\\U000E0020-\\U000E007E]+\\U000E007F"

def emojiText : String :=
  String.intercalate "|"
    [propertyText "Emoji_Presentation", propertyText "Emoji", presentationSequence,
      keycapSequence, modifierSequence, flagSequence, joinedSequence, tagSequence]

/-- The pattern of one unit: the base class and, among the extensions, emoji. -/
def unitText (x : Extensions) : String :=
  if x.emoji then baseText x ++ "|" ++ emojiText else baseText x

/-- The pattern that recognises a unit. -/
def recogniser [CharacterNames] (x : Extensions) : Except Pattern.Fault Pattern :=
  Pattern.read ("(?:" ++ unitText x ++ ")").toList

end Units

/-- Whether a text is exactly one unit. -/
def isUnit (x : Extensions) (text : List Char) : Bool :=
  match Units.recogniser x with
  | .ok p => p.root.matchesAll text
  | .error _ => false

end LineJoin
