import LineJoin.Yaml.Cursor

/-!
# Styles of scalars

A scalar is written plainly where its text and tag can be told from that, between single quotes where
nothing has to be escaped, and between double quotes otherwise. Bytes are written as a block of lines.
-/

namespace LineJoin.Yaml

inductive Style where
  | plain
  | single
  | double
  | block
deriving DecidableEq, Repr

namespace Style

/-- A line break that a scalar may hold as it is. -/
def isLineEnd (c : Char) : Bool := isBreak c && c != '\r'

/-- Characters that can stand in a text as they are. The byte order mark is escaped, and so is the
last code point of all. -/
def isShown (c : Char) : Bool :=
  let n := c.toNat
  n == 10 || (32 ≤ n && n ≤ 126) || n == 0x85 ||
    (0xA0 ≤ n && n ≤ 0xFFFD && n != 0xFEFF) || (0x10000 ≤ n && n < 0x10FFFF)

/-- Whether two characters that stand next to each other satisfy the predicates. -/
def hasPair (p q : Char → Bool) (cs : List Char) : Bool :=
  (cs.zip cs.tail).any fun (a, b) => p a && q b

def isSpace (c : Char) : Bool := c == ' '

/-- A blank or a line break at the beginning or at the end. -/
def hasLooseEnd (cs : List Char) : Bool :=
  let loose (c : Char) : Bool := isSpace c || isLineEnd c
  cs.head?.any loose || cs.getLast?.any loose

def isMultiline (cs : List Char) : Bool := cs.any isLineEnd

/-- Texts that only escapes can keep as they are. -/
def needsEscapes (cs : List Char) : Bool :=
  hasPair isSpace isLineEnd cs || cs.any fun c => !isShown c

/-- A colon before a gap, or a number sign after one. -/
def hasSign (afterGap : Bool) : List Char → Bool
  | [] => false
  | c :: rest =>
    (c == ':' && isGap (rest.headD endMark)) || (c == '#' && afterGap) || hasSign (isGap c) rest

/-- Signs that a plain scalar cannot begin with. -/
def beginsWithSign : List Char → Bool
  | [] => false
  | c :: rest =>
    ",[]\x7b\x7d&*!|>'\"%@\x60".toList.contains c ||
      ((c == '?' || c == '-') && isGap (rest.headD endMark))

def beginsLikeMark (cs : List Char) : Bool :=
  cs.take 3 == ['-', '-', '-'] || cs.take 3 == ['.', '.', '.']

def admitsSingle (cs : List Char) : Bool := !hasPair isLineEnd isSpace cs && !needsEscapes cs

def admitsPlain (cs : List Char) : Bool :=
  admitsSingle cs && !hasLooseEnd cs && !isMultiline cs && !hasSign true cs &&
    !beginsWithSign cs && !beginsLikeMark cs

def admitsBlock (cs : List Char) : Bool :=
  !cs.isEmpty && !cs.getLast?.any isSpace && !needsEscapes cs

/-- The style of a text. `clear` says that the tag can be told from the plain text; a key is on one
line with its colon. -/
def choose (asBlock clear isKey : Bool) (cs : List Char) : Style :=
  if asBlock then (if !isKey && admitsBlock cs then block else double)
  else if clear && admitsPlain cs && !(isKey && cs.isEmpty) then plain
  else if admitsSingle cs && !(isKey && isMultiline cs) then single
  else double

end Style

end LineJoin.Yaml
