import LineJoin.Chars.Span
import LineJoin.Yaml.Cursor

/-!
# Texts of scalars

A scalar is written plainly, between quotes, or as a block of indented lines. Each reader here gives
the text that is meant: lines of plain and quoted scalars are folded, escapes are resolved, and the
indentation of a block is taken away.
-/

namespace LineJoin.Yaml.Scalar

open Reading

/-! ## Quoted scalars -/

def simpleEscape? : Char → Option Char
  | '0' => some '\x00'
  | 'a' => some '\x07'
  | 'b' => some '\x08'
  | 't' | '\t' => some '\t'
  | 'n' => some '\n'
  | 'v' => some '\x0b'
  | 'f' => some '\x0c'
  | 'r' => some '\r'
  | 'e' => some '\x1b'
  | ' ' => some ' '
  | '"' => some '"'
  | '\\' => some '\\'
  | '/' => some '/'
  | 'N' => some '\x85'
  | '_' => some '\u00a0'
  | 'L' => some '\u2028'
  | 'P' => some '\u2029'
  | _ => none

/-- How many hexadecimal digits follow an escape letter. -/
def escapeLength? : Char → Option Nat
  | 'x' => some 2
  | 'u' => some 4
  | 'U' => some 8
  | _ => none

/-- Empty lines, each as its line break. A document may not begin or end inside a scalar. -/
def emptyLines (start : Mark) : Nat → Reading (List Char)
  | 0 => return []
  | fuel + 1 => do
    if (← get).atDocumentMark then failInside .quotedScalar start .documentSeparator
    skipWhile isSpaceOrTab
    match ← lineBreak with
    | [] => return []
    | cs => return cs ++ (← emptyLines start fuel)

/-- Line breaks folded: a single line feed is a blank, and more are one fewer. -/
def folded (first : List Char) (others : List Char) : List Char :=
  if first ≠ ['\n'] then first ++ others
  else if others.isEmpty then [' '] else others

/-- Blanks inside a line, or the break of the line and the empty lines after it. -/
def gap (start : Mark) : Reading (List Char) := do
  let blanks ← takeWhile isSpaceOrTab
  if (← head) = endMark then failInside .quotedScalar start .endOfStream
  match ← lineBreak with
  | [] => return blanks
  | first => return folded first (← emptyLines start ((← left) + 1))

/-- The digits of an escape, the first of which is `k` places ahead. -/
def escapeDigits (start : Mark) (length : Nat) : Nat → Nat → Reading Unit
  | _, 0 => return ()
  | k, fuel + 1 => do
    let c ← ahead k
    if isHexDigit c then escapeDigits start length (k + 1) fuel
    else
      failInside .doubleQuotedScalar start
        (.expected ("escape sequence of " ++ natText length ++ " hexadecimal numbers") c)

/-- What a backslash stands for together with what follows it. -/
def escaped (start : Mark) : Reading (List Char) := do
  advance 1
  let c ← head
  match simpleEscape? c, escapeLength? c with
  | some x, _ => advance 1; return [x]
  | none, some length =>
    advance 1
    escapeDigits start length 0 length
    let code := Span.hexNumber ((← get).rest.take length)
    if 0x10FFFF < code then throw (.misfit (.codePoint code))
    advance length
    return [Char.ofNat code]
  | none, none =>
    match ← lineBreak with
    | [] => failInside .doubleQuotedScalar start (.unknownEscape c)
    | _ => emptyLines start ((← left) + 1)

/-- The text up to the closing quote. -/
def quotedRest (double : Bool) (start : Mark) : Nat → Reading (List Char)
  | 0 => return []
  | fuel + 1 => do
    let c ← head
    if c = (if double then '"' else '\'') then
      if !double && (← ahead 1) = '\'' then
        advance 2
        return '\'' :: (← quotedRest double start fuel)
      else
        advance 1
        return []
    else if double && c = '\\' then
      let cs ← escaped start
      return cs ++ (← quotedRest double start fuel)
    else if isGap c then
      let cs ← gap start
      return cs ++ (← quotedRest double start fuel)
    else
      advance 1
      return c :: (← quotedRest double start fuel)

/-- A scalar between quotes. -/
def quotedText (double : Bool) : Reading (List Char) := do
  let start ← mark
  let fuel ← left
  advance 1
  quotedRest double start fuel

/-! ## Plain scalars -/

def isFlowSign (c : Char) : Bool :=
  c == ',' || c == '[' || c == ']' || c == '\x7b' || c == '\x7d'

/-- Whether a plain scalar ends before a character. In flow collections their signs end it too. -/
def endsPlain (inFlow : Bool) (c next : Char) : Bool :=
  isGap c || (c == ':' && (isGap next || (inFlow && isFlowSign next))) ||
    (inFlow && (isFlowSign c || c == '?'))

def plainRun (inFlow : Bool) : List Char → List Char
  | [] => []
  | c :: rest =>
    if endsPlain inFlow c (rest.headD endMark) then [] else c :: plainRun inFlow rest

/-- Empty and indented lines inside a plain scalar; none where a document begins or ends. -/
def plainBreaks : Nat → Reading (Option (List Char))
  | 0 => return some []
  | fuel + 1 => do
    skipWhile (· == ' ')
    match ← lineBreak with
    | [] => return some []
    | cs =>
      if (← get).atDocumentMark then return none
      return (← plainBreaks fuel).map (cs ++ ·)

/-- What stands between two words of a plain scalar, and whether the line was ended. -/
def plainGap : Reading (List Char × Bool) := do
  let blanks ← takeWhile (· == ' ')
  match ← lineBreak with
  | [] => return (blanks, false)
  | first =>
    if (← get).atDocumentMark then return ([], true)
    match ← plainBreaks ((← left) + 1) with
    | none => return ([], true)
    | some others => return (folded first others, true)

/-- The words of a plain scalar with what stands between them, the place where the last one ends, and
whether a line was ended after it. -/
def plainWords (inFlow : Bool) (indent : Int) (stop : Mark) (ended : Bool) (between : List Char) :
    Nat → Reading (List Char × Mark × Bool)
  | 0 => return ([], stop, ended)
  | fuel + 1 => do
    let rest := (← get).rest
    let word := if rest.head? = some '#' then [] else plainRun inFlow rest
    if word.isEmpty then return ([], stop, ended)
    advance word.length
    let stop ← mark
    let (space, ended) ← plainGap
    let done := space.isEmpty || (← head) = '#' || (!inFlow && ((← column) : Int) < indent)
    if done then return (between ++ word, stop, ended)
    let (rest, stop, ended) ← plainWords inFlow indent stop ended space fuel
    return (between ++ word ++ rest, stop, ended)

/-- A plain scalar, where it ends and whether a line was ended after it. In block collections its
further lines have to be indented. -/
def plainText (inFlow : Bool) (indent : Int) : Reading (List Char × Mark × Bool) := do
  plainWords inFlow indent (← mark) false [] ((← left) + 1)

/-! ## Block scalars -/

/-- What becomes of the line breaks at the end of a block. -/
inductive Chomping where
  | clip
  | strip
  | keep
deriving DecidableEq, Repr

def chomping? : Reading (Option Chomping) := do
  match ← head with
  | '+' => advance 1; return some .keep
  | '-' => advance 1; return some .strip
  | _ => return none

def indentation? (start : Mark) : Reading (Option Nat) := do
  let c ← head
  if isDigit c then
    if c = '0' then failInside .blockScalar start .zeroIndentation
    advance 1
    return some (digitValue c)
  else return none

/-- The signs after the first one of a block scalar, in either order. -/
def indicators (start : Mark) : Reading (Chomping × Option Nat) := do
  let first ← chomping?
  let indent ← indentation? start
  let chomping ← if first.isNone && indent.isSome then chomping? else pure first
  if !isSpaceOrEnd (← head) then
    expected .blockScalar start "chomping or indentation indicators"
  return (chomping.getD .clip, indent)

/-- Empty lines before the first line of a block, the greatest indentation seen, and where the last
empty line ends. -/
def leadingLines (widest : Nat) (stop : Mark) : Nat → Reading (List Char × Nat × Mark)
  | 0 => return ([], widest, stop)
  | fuel + 1 => do
    if (← head) = ' ' then
      advance 1
      leadingLines (max widest (← column)) stop fuel
    else
      match ← lineBreak with
      | [] => return ([], widest, stop)
      | cs =>
        let (rest, widest, stop) ← leadingLines widest (← mark) fuel
        return (cs ++ rest, widest, stop)

/-- Skips blanks up to an indentation. -/
def skipIndent (indent : Nat) : Reading Unit := do
  let blanks := ((← get).rest.takeWhile (· == ' ')).length
  advance (min blanks (indent - (← column)))

/-- Empty lines inside a block, and where the last one ends. -/
def blockBreaks (indent : Nat) (stop : Mark) : Nat → Reading (List Char × Mark)
  | 0 => return ([], stop)
  | fuel + 1 => do
    skipIndent indent
    match ← lineBreak with
    | [] => return ([], stop)
    | cs =>
      let (rest, stop) ← blockBreaks indent (← mark) fuel
      return (cs ++ rest, stop)

/-- The end of a block: its last line break and the empty lines after it. -/
structure BlockTail where
  last : List Char
  breaks : List Char
  stop : Mark

def isIndented (c : Char) : Bool := isSpaceOrTab c

/-- The lines of a block. In a folded block a single break between two lines that are not further
indented is a blank. -/
def blockLines (fold : Bool) (indent : Nat) (tail : BlockTail) :
    Nat → Reading (List Char × BlockTail)
  | 0 => return ([], tail)
  | fuel + 1 => do
    if (← column) = indent && (← head) ≠ endMark then
      let further := isIndented (← head)
      let line ← takeWhile fun c => !isBreakOrEnd c
      let last ← lineBreak
      let (breaks, stop) ← blockBreaks indent (← mark) ((← left) + 1)
      let before := tail.breaks ++ line
      let next ← head
      let between :=
        if (← column) = indent && next ≠ endMark then
          if fold && last = ['\n'] && !further && !isIndented next then
            if breaks.isEmpty then [' '] else []
          else last
        else []
      let (rest, tail) ← blockLines fold indent ⟨last, breaks, stop⟩ fuel
      return (before ++ between ++ rest, tail)
    else return ([], tail)

/-- A block scalar inside a collection of the given indentation, and where it ends. -/
def blockText (fold : Bool) (outer : Int) : Reading (List Char × Mark) := do
  let start ← mark
  advance 1
  let (chomping, increment) ← indicators start
  restOfLine .blockScalar start
  let least := max (outer + 1) 1
  let fuel := (← left) + 1
  let (breaks, indent, stop) ← match increment with
    | none => do
      let (breaks, widest, stop) ← leadingLines 0 (← mark) fuel
      pure (breaks, max least.toNat widest, stop)
    | some n => do
      let indent := least.toNat + n - 1
      let (breaks, stop) ← blockBreaks indent (← mark) fuel
      pure (breaks, indent, stop)
  let (text, tail) ← blockLines fold indent ⟨[], breaks, stop⟩ fuel
  return (text ++ (match chomping with
    | .strip => []
    | .clip => tail.last
    | .keep => tail.last ++ tail.breaks), tail.stop)

end LineJoin.Yaml.Scalar
