import LineJoin.Chars.Category
import LineJoin.Chars.Table

/-!
# Grapheme clusters

What a reader takes for one character may be written with several: a letter and its marks, the parts
of a Hangul syllable, two regional indicators, pictographs that are joined. `Grapheme.isBoundary`
says where one such cluster ends and the next one begins.
-/

namespace LineJoin.Grapheme

/-- How a character stands in a cluster. -/
inductive Part where
  | carriage
  | feed
  | control
  /-- A mark, or something else that extends what stands before it. -/
  | extending
  | joiner
  | regional
  /-- A sign that belongs to what follows it. -/
  | leading
  | spacing
  | leadingJamo
  | vowelJamo
  | trailingJamo
  /-- A Hangul syllable without a trailing consonant. -/
  | openSyllable
  | closedSyllable
  | other
deriving DecidableEq, Repr

/-- Characters besides marks that extend what stands before them. -/
def extendingSpans : List Span := Span.readTable
  ["9BE 9D7 B3E B57 BBE BD7 CC2 CD5-CD6 D3E D57 DCF DDF 1B35 200C 302E-302F FF9E-FF9F 1133E 11357",
    "114B0 114BD 115AF 11930 1D165 1D16E-1D172 1F3FB-1F3FF E0020-E007F"]

/-- Spacing marks that begin a cluster of their own. -/
def apartSpans : List Span := Span.readTable
  ["102B-102C 1038 1062-1064 1067-106D 1083 1087-108C 108F 109A-109C 1A61 1A63-1A64 AA7B AA7D",
    "11720-11721"]

def leadingSpans : List Span := Span.readTable
  ["600-605 6DD 70F 890-891 8E2 D4E 110BD 110CD 111C2-111C3 1193F 11941 11A3A 11A84-11A89 11D46",
    "11F02"]

/-- Unassigned code points that are controls. -/
def reservedSpans : List Span := Span.readTable
  ["2065 FFF0-FFF8 E0000 E0002-E001F E0080-E00FF E01F0-E0FFF"]

def pictographSpans : List Span := Span.readTable
  ["A9 AE 203C 2049 2122 2139 2194-2199 21A9-21AA 231A-231B 2328 2388 23CF 23E9-23F3 23F8-23FA",
    "24C2 25AA-25AB 25B6 25C0 25FB-25FE 2600-2605 2607-2612 2614-2685 2690-2705 2708-2712 2714",
    "2716 271D 2721 2728 2733-2734 2744 2747 274C 274E 2753-2755 2757 2763-2767 2795-2797 27A1",
    "27B0 27BF 2934-2935 2B05-2B07 2B1B-2B1C 2B50 2B55 3030 303D 3297 3299 1F000-1F0FF",
    "1F10D-1F10F 1F12F 1F16C-1F171 1F17E-1F17F 1F18E 1F191-1F19A 1F1AD-1F1E5 1F201-1F20F 1F21A",
    "1F22F 1F232-1F23A 1F23C-1F23F 1F249-1F3FA 1F400-1F53D 1F546-1F64F 1F680-1F6FF 1F774-1F77F",
    "1F7D5-1F7FF 1F80C-1F80F 1F848-1F84F 1F85A-1F85F 1F888-1F88F 1F8AE-1F8FF 1F90C-1F93A",
    "1F93C-1F945 1F947-1FAFF 1FC00-1FFFD"]

/-- Consonants that a linking sign joins to the consonant after them. -/
def consonantSpans : List Span := Span.readTable
  ["915-939 958-95F 978-97F 995-9A8 9AA-9B0 9B2 9B6-9B9 9DC-9DD 9DF 9F0-9F1 A95-AA8 AAA-AB0",
    "AB2-AB3 AB5-AB9 AF9 B15-B28 B2A-B30 B32-B33 B35-B39 B5C-B5D B5F B71 C15-C28 C2A-C39 C58-C5A",
    "D15-D3A"]

def linkingSpans : List Span := Span.readTable ["94D 9CD ACD B4D C4D D4D"]

def isMark (c : Nat) : Bool := Category.nonspacingMark.holds c || Category.enclosingMark.holds c

def isControl (c : Nat) : Bool :=
  [Category.control, .format, .lineSeparator, .paragraphSeparator].any (·.holds c) ||
    Span.covers reservedSpans c

def part (c : Nat) : Part :=
  if c = 13 then .carriage
  else if c = 10 then .feed
  else if c = 0x200D then .joiner
  else if isMark c || Span.covers extendingSpans c then .extending
  else if Span.covers leadingSpans c then .leading
  else if isControl c then .control
  else if Span.covers CharTable.regionalIndicator c then .regional
  else if Span.covers [⟨0x1100, 0x115F⟩, ⟨0xA960, 0xA97C⟩] c then .leadingJamo
  else if Span.covers [⟨0x1160, 0x11A7⟩, ⟨0xD7B0, 0xD7C6⟩] c then .vowelJamo
  else if Span.covers [⟨0x11A8, 0x11FF⟩, ⟨0xD7CB, 0xD7FB⟩] c then .trailingJamo
  else if 0xAC00 ≤ c && c ≤ 0xD7A3 then
    if (c - 0xAC00) % 28 = 0 then .openSyllable else .closedSyllable
  else if c = 0xE33 || c = 0xEB3 then .spacing
  else if Category.spacingMark.holds c && !Span.covers apartSpans c then .spacing
  else .other

/-- A pictograph and what extends it, nearest character first. -/
def endsPictograph : List Char → Bool
  | [] => false
  | c :: before =>
    if part c.toNat = .extending then endsPictograph before
    else Span.covers pictographSpans c.toNat

/-- A consonant and signs after it, one of which links. -/
def endsLinked (linked : Bool) : List Char → Bool
  | [] => false
  | c :: before =>
    if Span.covers linkingSpans c.toNat then endsLinked true before
    else if part c.toNat = .extending || part c.toNat = .joiner then endsLinked linked before
    else linked && Span.covers consonantSpans c.toNat

/-- Whether a character goes on the cluster of the text before it, nearest character first. -/
def isJoined (x : Char) (before : List Char) (y : Char) : Bool :=
  match part x.toNat, part y.toNat with
  | .carriage, .feed => true
  | .carriage, _ | .feed, _ | .control, _ => false
  | _, .carriage | _, .feed | _, .control => false
  | _, .extending | _, .joiner | _, .spacing => true
  | .leading, _ => true
  | .leadingJamo, .leadingJamo | .leadingJamo, .vowelJamo => true
  | .leadingJamo, .openSyllable | .leadingJamo, .closedSyllable => true
  | .openSyllable, .vowelJamo | .vowelJamo, .vowelJamo => true
  | .openSyllable, .trailingJamo | .vowelJamo, .trailingJamo => true
  | .closedSyllable, .trailingJamo | .trailingJamo, .trailingJamo => true
  | .regional, .regional =>
    (before.takeWhile fun c => part c.toNat = .regional).length % 2 = 0
  | .joiner, _ =>
    (Span.covers pictographSpans y.toNat && endsPictograph before) ||
      (Span.covers consonantSpans y.toNat && endsLinked false (x :: before))
  | _, _ => Span.covers consonantSpans y.toNat && endsLinked false (x :: before)

/-- Whether a cluster begins or ends between two texts, the first one nearest character first. -/
def isBoundary : List Char → List Char → Bool
  | [], [] => false
  | [], _ :: _ => true
  | _ :: _, [] => true
  | x :: before, y :: _ => !isJoined x before y

end LineJoin.Grapheme
