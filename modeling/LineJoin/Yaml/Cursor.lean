import LineJoin.Yaml.Fault

/-!
# Places in a YAML text

A `Cursor` stands before the rest of a text and knows its line and column. The end of the text reads
as NUL, which no text holds. `Reading` computations take characters and can fail.
-/

namespace LineJoin.Yaml

def endMark : Char := '\x00'

def isBreak (c : Char) : Bool :=
  c == '\n' || c == '\r' || c == '\x85' || c == '\u2028' || c == '\u2029'

def isBreakOrEnd (c : Char) : Bool := isBreak c || c == endMark

/-- What may follow an indicator that stands for itself. -/
def isGap (c : Char) : Bool := isBreakOrEnd c || c == ' ' || c == '\t'

/-- A blank, a line break or the end. -/
def isSpaceOrEnd (c : Char) : Bool := isBreakOrEnd c || c == ' '

def isSpaceOrTab (c : Char) : Bool := c == ' ' || c == '\t'

/-- Letters, digits, hyphen and underscore. -/
def isNameChar (c : Char) : Bool := c.isAlphanum || c == '-' || c == '_'

def isHexDigit (c : Char) : Bool := (Span.hexValue? c).isSome

structure Cursor where
  rest : List Char
  index : Nat
  line : Nat
  column : Nat
deriving Inhabited

namespace Cursor

def start (text : List Char) : Cursor := ⟨text, 0, 0, 0⟩

def mark (c : Cursor) : Mark := ⟨c.line, c.column⟩

/-- The character `n` places ahead. -/
def ahead (c : Cursor) (n : Nat) : Char := c.rest.getD n endMark

def head (c : Cursor) : Char := c.rest.headD endMark

/-- Whether a line ends with this character; a carriage return before a line feed does not. -/
def endsLine (x : Char) (rest : List Char) : Bool :=
  isBreak x && !(x == '\r' && rest.head? == some '\n')

/-- Moves past one character. A byte order mark takes no column. -/
def step (c : Cursor) : Cursor :=
  match c.rest with
  | [] => c
  | x :: rest =>
    if endsLine x rest then ⟨rest, c.index + 1, c.line + 1, 0⟩
    else ⟨rest, c.index + 1, c.line, if x = '\uFEFF' then c.column else c.column + 1⟩

def advance : Nat → Cursor → Cursor
  | 0, c => c
  | n + 1, c => advance n c.step

/-- A line of three hyphens or three points, which begins or ends a document. -/
def atSeparator (c : Cursor) (sign : Char) : Bool :=
  c.rest.take 3 == [sign, sign, sign] && isGap (c.ahead 3)

def atDocumentMark (c : Cursor) : Bool := c.atSeparator '-' || c.atSeparator '.'

end Cursor

abbrev Reading (α : Type) : Type := StateT Cursor (Except Fault) α

namespace Reading

def head : Reading Char := do return (← get).head

def ahead (n : Nat) : Reading Char := do return (← get).ahead n

def mark : Reading Mark := do return (← get).mark

def column : Reading Nat := do return (← get).column

def advance (n : Nat) : Reading Unit := modify (Cursor.advance n)

/-- How many characters are left, which bounds every loop. -/
def left : Reading Nat := do return (← get).rest.length

/-- Takes characters as long as the predicate holds. -/
def takeWhile (p : Char → Bool) : Reading (List Char) := do
  let taken := (← get).rest.takeWhile p
  advance taken.length
  return taken

def skipWhile (p : Char → Bool) : Reading Unit := do
  let _ ← takeWhile p

def failInside {α : Type} (context : Context) (start : Mark) (problem : Problem) : Reading α := do
  throw (.inside context (some start) problem (← mark))

/-- Fails at the next character. -/
def expected {α : Type} (context : Context) (start : Mark) (wanted : String) : Reading α := do
  failInside context start (.expected wanted (← head))

/-- Takes a line break, if there is one. All breaks but the two separators of Unicode count as line
feeds. -/
def lineBreak : Reading (List Char) := do
  let c ← head
  if c = '\r' then
    advance (if (← ahead 1) = '\n' then 2 else 1)
    return ['\n']
  else if c = '\n' || c = '\x85' then
    advance 1
    return ['\n']
  else if isBreak c then
    advance 1
    return [c]
  else return []

/-- Skips blanks and a comment. -/
def skipComment : Reading Unit := do
  skipWhile (· == ' ')
  if (← head) = '#' then skipWhile fun c => !isBreakOrEnd c

/-- Skips blanks and a comment, after which the line has to end. -/
def restOfLine (context : Context) (start : Mark) : Reading Unit := do
  skipComment
  if !isBreakOrEnd (← head) then expected context start "a comment or a line break"
  let _ ← lineBreak

end Reading

end LineJoin.Yaml
