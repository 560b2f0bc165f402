import LineJoin.Chars.Letters
import LineJoin.Chars.Table

/-!
# Character properties

The properties by which patterns speak of characters, with the names they are written under.
`Property.named?` looks up an unqualified name such as `Emoji` or `Lu`, `Property.qualified?` a
qualified one such as `scx=Han`, `Property.inClass?` the name of a class such as `[:digit:]`. Names
ignore case, blanks, hyphens and underscores.
-/

namespace LineJoin

inductive Script where
  | han
  | bopomofo
  | yi
  | hiragana
  | katakana
  | hangul
deriving DecidableEq, Repr

namespace Script

/-- The characters that belong to the script alone. -/
def own : Script → List Span
  | han => CharTable.hanScript
  | bopomofo => CharTable.bopomofoScript
  | yi => CharTable.yiScript
  | hiragana => CharTable.hiraganaScript
  | katakana => CharTable.katakanaScript
  | hangul => CharTable.hangulScript

/-- The characters that the script uses, shared ones included. -/
def extended : Script → List Span
  | han => CharTable.hanExtensions
  | bopomofo => CharTable.bopomofoExtensions
  | yi => CharTable.yiExtensions
  | hiragana => CharTable.hiraganaExtensions
  | katakana => CharTable.katakanaExtensions
  | hangul => CharTable.hangulExtensions

def names : List (String × Script) :=
  [("HAN", han), ("HANI", han), ("BOPOMOFO", bopomofo), ("BOPO", bopomofo), ("YI", yi),
    ("YIII", yi), ("HIRAGANA", hiragana), ("HIRA", hiragana), ("KATAKANA", katakana),
    ("KANA", katakana), ("HANGUL", hangul), ("HANG", hangul)]

end Script

inductive Property where
  | script (s : Script)
  | scriptExtension (s : Script)
  | categories (ks : List Category)
  | alphabetic
  | uppercase
  | lowercase
  /-- Characters of which there are an upper and a lower case. -/
  | cased
  | alphanumeric
  | radical
  | emoji
  | emojiPresentation
  | emojiModifier
  | emojiModifierBase
  | regionalIndicator
  | word
  | space
  | blank
  /-- Digits and letters of hexadecimal numbers, and the digits of all scripts. -/
  | hexDigit
  | any
  /-- The letters and the ten digits of the Latin script. -/
  | classAlphanumeric
  /-- Punctuation, and symbols that are no letters. -/
  | classPunctuation
  /-- The characters of a list. -/
  | listed (table : List Span)
deriving DecidableEq, Repr

namespace Property

/-- Spaces within a line. -/
def blankSpans : List Span :=
  [⟨9, 9⟩, ⟨0x20, 0x20⟩, ⟨0xA0, 0xA0⟩, ⟨0x1680, 0x1680⟩, ⟨0x2000, 0x200A⟩, ⟨0x202F, 0x202F⟩,
    ⟨0x205F, 0x205F⟩, ⟨0x3000, 0x3000⟩]

/-- The digits and letters of hexadecimal numbers, in half and in full width. -/
def hexDigitSpans : List Span :=
  [⟨0x30, 0x39⟩, ⟨0x41, 0x46⟩, ⟨0x61, 0x66⟩, ⟨0xFF10, 0xFF19⟩, ⟨0xFF21, 0xFF26⟩, ⟨0xFF41, 0xFF46⟩]

def latinDigits : List Span := [⟨0x30, 0x39⟩]

def latinHexDigits : List Span := [⟨0x30, 0x39⟩, ⟨0x41, 0x46⟩, ⟨0x61, 0x66⟩]

def letters : List Category :=
  [.uppercaseLetter, .lowercaseLetter, .titlecaseLetter, .modifierLetter, .otherLetter]

def marks : List Category := [.nonspacingMark, .spacingMark, .enclosingMark]

def isAlphabetic (c : Nat) : Bool :=
  letters.any (·.holds c) || Category.letterNumber.holds c ||
    Span.covers CharTable.otherAlphabetic c

def isUppercase (c : Nat) : Bool :=
  Category.uppercaseLetter.holds c || Span.covers CharTable.otherUppercase c

def isLowercase (c : Nat) : Bool :=
  Category.lowercaseLetter.holds c || Span.covers CharTable.otherLowercase c

/-- What words are written with: letters, marks, digits, low lines, and the joiners that have no
width. -/
def isWordPart (c : Nat) : Bool :=
  isAlphabetic c || marks.any (·.holds c) || Category.decimalNumber.holds c ||
    Category.connectorPunctuation.holds c || c == 0x200C || c == 0x200D

/-- Whether a code point has the property. -/
def holds : Property → Nat → Bool
  | script s, c => Span.covers s.own c
  | scriptExtension s, c => Span.covers s.extended c
  | categories ks, c => ks.any (·.holds c)
  | alphabetic, c => isAlphabetic c
  | uppercase, c => isUppercase c
  | lowercase, c => isLowercase c
  | cased, c => isUppercase c || isLowercase c || Category.titlecaseLetter.holds c
  | alphanumeric, c => isAlphabetic c || Category.decimalNumber.holds c
  | radical, c => Span.covers CharTable.radical c
  | emoji, c => Span.covers CharTable.emoji c
  | emojiPresentation, c => Span.covers CharTable.emojiPresentation c
  | emojiModifier, c => Span.covers CharTable.emojiModifier c
  | emojiModifierBase, c => Span.covers CharTable.emojiModifierBase c
  | regionalIndicator, c => Span.covers CharTable.regionalIndicator c
  | word, c => isWordPart c
  | space, c => Span.covers CharTable.space c
  | blank, c => Span.covers blankSpans c
  | hexDigit, c => Span.covers hexDigitSpans c || Category.decimalNumber.holds c
  | any, _ => true
  | classAlphanumeric, c => isAlphabetic c || Span.covers latinDigits c
  | classPunctuation, c => (Category.group 'P').any (·.holds c) ||
      (Category.group 'S').any (·.holds c) && !isAlphabetic c
  | listed table, c => Span.covers table c

def digit : Property := categories [.decimalNumber]

/-- The letters that have a case. -/
def casedLetters : List Category := [.uppercaseLetter, .lowercaseLetter, .titlecaseLetter]

/-- The categories of blanks, of controls and of what is no character. -/
def invisible : List Category :=
  [.spaceSeparator, .lineSeparator, .paragraphSeparator, .control, .surrogate, .unassigned]

/-- What is neither blank nor a control. -/
def visible : List Category := Category.all.filter fun k => !invisible.contains k

def binaryNames : List (String × Property) :=
  [("RADICAL", radical), ("EMOJI", emoji), ("EMOJIPRESENTATION", emojiPresentation),
    ("EPRES", emojiPresentation), ("EMOJIMODIFIER", emojiModifier), ("EMOD", emojiModifier),
    ("EMOJIMODIFIERBASE", emojiModifierBase), ("EBASE", emojiModifierBase),
    ("REGIONALINDICATOR", regionalIndicator), ("RI", regionalIndicator), ("WORD", word),
    ("WHITESPACE", space), ("SPACE", space), ("BLANK", blank), ("ANY", any), ("ALL", any),
    ("ALPHABETIC", alphabetic), ("ALPHA", alphabetic), ("ALNUM", alphanumeric),
    ("XDIGIT", hexDigit), ("UPPERCASE", uppercase), ("UPPER", uppercase),
    ("LOWERCASE", lowercase), ("LOWER", lowercase), ("CASED", cased),
    ("HEXDIGIT", listed hexDigitSpans), ("HEX", listed hexDigitSpans),
    ("ASCIIHEXDIGIT", listed latinHexDigits), ("AHEX", listed latinHexDigits),
    ("GRAPH", categories visible),
    ("PRINT", categories (visible ++ [.spaceSeparator])), ("POSIXALNUM", classAlphanumeric),
    ("POSIXDIGIT", listed latinDigits), ("POSIXPUNCT", classPunctuation),
    ("POSIXXDIGIT", listed latinHexDigits)]

def categoryNames : List (String × Property) :=
  let single := Category.all.flatMap fun k =>
    [(String.map Char.toUpper k.short, categories [k]), (k.long, categories [k])]
  let groups := [("L", 'L', "LETTER"), ("M", 'M', "MARK"), ("N", 'N', "NUMBER"),
    ("P", 'P', "PUNCTUATION"), ("S", 'S', "SYMBOL"), ("Z", 'Z', "SEPARATOR"), ("C", 'C', "OTHER")]
  let others := [("LC", casedLetters), ("CASEDLETTER", casedLetters), ("PUNCT", Category.group 'P'),
    ("COMBININGMARK", marks), ("DIGIT", [.decimalNumber]), ("CNTRL", [.control]),
    ("ASSIGNED", Category.all.filter (· != .unassigned))]
  single ++ groups.flatMap (fun (short, letter, long) =>
    [(short, categories (Category.group letter)), (long, categories (Category.group letter))]) ++
    others.map fun (name, ks) => (name, categories ks)

/-- The spelling under which a name is looked up. -/
def standardName (name : List Char) : String :=
  String.ofList ((name.filter fun c => !(['_', '-', ' '].contains c)).map Char.toUpper)

def named? (name : List Char) : Option Property :=
  let key := standardName name
  match categoryNames.lookup key with
  | some p => some p
  | none => match Script.names.lookup key with
    | some s => some (script s)
    | none => match binaryNames.lookup key with
      | some p => some p
      | none => match key.toList with
        | 'I' :: 'S' :: rest =>
          match binaryNames.lookup (String.ofList rest) with
          | some p => some p
          | none => (Script.names.lookup (String.ofList rest)).map script
        | _ => none

/-- The names that stand for something else in a class in brackets. -/
def classNames : List String := ["ALNUM", "DIGIT", "PUNCT", "XDIGIT"]

/-- A name of a class in brackets. -/
def inClass? (name : List Char) : Option Property :=
  named? (if classNames.contains (standardName name) then "POSIX".toList ++ name else name)

inductive Lookup where
  | found (p : Property)
  | unknownProperty
  | unknownValue

def ofOption : Option Property → Lookup
  | some p => .found p
  | none => .unknownValue

/-- A value of a property that has several. -/
def qualified? (property value : List Char) : Lookup :=
  let key := standardName property
  let value := standardName value
  if key = "SCX" || key = "SCRIPTEXTENSIONS" then
    ofOption ((Script.names.lookup value).map scriptExtension)
  else if key = "SC" || key = "SCRIPT" then ofOption ((Script.names.lookup value).map script)
  else if key = "GC" || key = "GENERALCATEGORY" then ofOption (categoryNames.lookup value)
  else .unknownProperty

end Property

end LineJoin
