import LineJoin.Yaml.Token.Scalar
import LineJoin.Yaml.Token.Tag

/-!
# Cutting a YAML text into tokens

`Token.readAll` gives the tokens of a text. Whether a word is a mapping key is only known at the colon
after it, so a place where a key may begin is kept as a candidate until the colon comes or the line is
over; the sign of the key is then put in before it. A fault leaves the tokens that were certain before
it.
-/

namespace LineJoin.Yaml

open Token

/-- A place where a key may begin. -/
structure Candidate where
  /-- The number of the token that begins there. -/
  number : Nat
  /-- Nothing but a key can stand there. -/
  required : Bool
  index : Nat
  mark : Mark

/-- A text that is partly cut into tokens. -/
structure Scan where
  cursor : Cursor
  /-- The tokens so far, the last one first. -/
  tokens : List Token
  count : Nat
  /-- How many flow collections are open. -/
  depth : Int
  indent : Int
  indents : List Int
  /-- A key may begin here. -/
  keyAllowed : Bool
  candidates : List (Int × Candidate)
  done : Bool

namespace Scan

def start (text : List Char) : Scan :=
  { cursor := .start text, tokens := [], count := 0, depth := 0, indent := -1, indents := []
    keyAllowed := true, candidates := [], done := false }

def mark (s : Scan) : Mark := s.cursor.mark

def inFlow (s : Scan) : Bool := s.depth != 0

def fail {α : Type} (s : Scan) (problem : Problem) : Except Fault α :=
  .error (.found problem s.mark)

def push (s : Scan) (t : Token) : Scan := { s with tokens := t :: s.tokens, count := s.count + 1 }

def pushSign (s : Scan) (content : Content) : Scan := s.push ⟨content, s.mark, s.mark⟩

/-- Puts a token in at an earlier number. -/
def insert (s : Scan) (number : Nat) (t : Token) : Scan :=
  let later := s.count - number
  { s with tokens := s.tokens.take later ++ t :: s.tokens.drop later, count := s.count + 1 }

/-- Adds the token of a sign of the given length. -/
def pushFixed (s : Scan) (length : Nat) (content : Content) : Scan :=
  let cursor := s.cursor.advance length
  { s.push ⟨content, s.mark, cursor.mark⟩ with cursor }

def run {α : Type} (s : Scan) (r : Reading α) : Except Fault (α × Scan) := do
  let (a, cursor) ← r.run s.cursor
  return (a, { s with cursor })

/-! ## Candidates -/

def candidateFault (s : Scan) (c : Candidate) : Fault :=
  .inside .simpleKey (some c.mark) .missingColon s.mark

/-- A key and its colon stand on one line, at most 1024 characters apart. -/
def isStale (s : Scan) (c : Candidate) : Bool :=
  c.mark.line != s.cursor.line || 1024 < s.cursor.index - c.index

/-- Drops candidates that have become stale. -/
def dropStale (s : Scan) : Except Fault Scan := do
  match s.candidates.find? fun c => s.isStale c.2 && c.2.required with
  | some c => throw (s.candidateFault c.2)
  | none => return { s with candidates := s.candidates.filter fun c => !s.isStale c.2 }

/-- Drops the candidate among the open collections of this depth. -/
def dropCandidate (s : Scan) : Except Fault Scan := do
  match s.candidates.lookup s.depth with
  | none => return s
  | some c =>
    if c.required then throw (s.candidateFault c)
    return { s with candidates := s.candidates.filter fun c => c.1 != s.depth }

/-- Notes that a key may begin here. -/
def saveCandidate (s : Scan) : Except Fault Scan := do
  if s.keyAllowed then
    let s ← s.dropCandidate
    let required := !s.inFlow && s.indent == (s.cursor.column : Int)
    return { s with candidates := (s.depth, ⟨s.count, required, s.cursor.index, s.mark⟩) ::
      s.candidates }
  else return s

/-- How many tokens are certain: a sign may yet be put in before the first candidate. -/
def certain (s : Scan) : Nat :=
  s.candidates.foldl (fun n c => min n c.2.number) s.count

/-! ## Indentation -/

/-- Ends the block collections that are indented further than a column. -/
def unwind (column : Int) : List Int → Scan → Scan
  | [], s => s
  | outer :: rest, s =>
    if column < s.indent then
      unwind column rest ({ s with indent := outer, indents := rest }.pushSign .blockEnd)
    else s

def unwindTo (s : Scan) (column : Int) : Scan :=
  if s.inFlow then s else unwind column s.indents s

/-- Begins a block collection at a column unless one begins there already. -/
def openBlock? (s : Scan) (column : Nat) : Option Scan :=
  if s.indent < column then some { s with indents := s.indent :: s.indents, indent := column }
  else none

/-! ## Tokens -/

def fetchStreamEnd (s : Scan) : Except Fault Scan := do
  let s ← (s.unwindTo (-1)).dropCandidate
  return { s with keyAllowed := false, candidates := [], done := true }.pushSign .streamEnd

def fetchDirective (s : Scan) : Except Fault Scan := do
  let s ← (s.unwindTo (-1)).dropCandidate
  let (t, s) ← { s with keyAllowed := false }.run readDirective
  return s.push t

def fetchDocumentMark (content : Content) (s : Scan) : Except Fault Scan := do
  let s ← (s.unwindTo (-1)).dropCandidate
  return { s with keyAllowed := false }.pushFixed 3 content

def fetchFlowStart (content : Content) (s : Scan) : Except Fault Scan := do
  let s ← s.saveCandidate
  return { s with depth := s.depth + 1, keyAllowed := true }.pushFixed 1 content

def fetchFlowEnd (content : Content) (s : Scan) : Except Fault Scan := do
  let s ← s.dropCandidate
  return { s with depth := s.depth - 1, keyAllowed := false }.pushFixed 1 content

def fetchFlowEntry (s : Scan) : Except Fault Scan := do
  let s ← s.dropCandidate
  return { s with keyAllowed := true }.pushFixed 1 .flowEntry

/-- Begins a block collection before a sign, if one can begin here. -/
def openBefore (content : Content) (problem : Problem) (s : Scan) : Except Fault Scan := do
  if s.inFlow then return s
  if !s.keyAllowed then s.fail problem
  return match s.openBlock? s.cursor.column with
    | some s => s.pushSign content
    | none => s

def fetchBlockEntry (s : Scan) : Except Fault Scan := do
  let s ← s.openBefore .blockSequenceStart .entryNotAllowed
  let s ← s.dropCandidate
  return { s with keyAllowed := true }.pushFixed 1 .blockEntry

def fetchKey (s : Scan) : Except Fault Scan := do
  let s ← s.openBefore .blockMappingStart .keyNotAllowed
  let s ← s.dropCandidate
  return { s with keyAllowed := !s.inFlow }.pushFixed 1 .key

/-- Makes a candidate a key, with the beginning of a block mapping before it if there is none. -/
def confirm (c : Candidate) (s : Scan) : Scan :=
  let s := { s with candidates := s.candidates.filter fun c => c.1 != s.depth }
  let s := s.insert c.number ⟨.key, c.mark, c.mark⟩
  if s.inFlow then s
  else match s.openBlock? c.mark.column with
    | some s => s.insert c.number ⟨.blockMappingStart, c.mark, c.mark⟩
    | none => s

def fetchValue (s : Scan) : Except Fault Scan := do
  match s.candidates.lookup s.depth with
  | some c => return { s.confirm c with keyAllowed := false }.pushFixed 1 .value
  | none =>
    let s ← s.openBefore .blockMappingStart .valueNotAllowed
    let s ← s.dropCandidate
    return { s with keyAllowed := !s.inFlow }.pushFixed 1 .value

/-- A token that may begin a key and after which no key can begin. -/
def fetchPart (r : Reading Token) (s : Scan) : Except Fault Scan := do
  let s ← s.saveCandidate
  let (t, s) ← { s with keyAllowed := false }.run r
  return s.push t

def fetchQuoted (double : Bool) (s : Scan) : Except Fault Scan :=
  s.fetchPart do
    let start ← Reading.mark
    upTo start (.scalar (← Scalar.quotedText double) false)

def fetchPlain (s : Scan) : Except Fault Scan := do
  let s ← s.saveCandidate
  let ((text, stop, ended), s') ← s.run (Scalar.plainText s.inFlow (s.indent + 1))
  return { s' with keyAllowed := ended }.push ⟨.scalar text true, s.mark, stop⟩

def fetchBlockScalar (fold : Bool) (s : Scan) : Except Fault Scan := do
  let s ← s.dropCandidate
  let ((text, stop), s') ← s.run (Scalar.blockText fold s.indent)
  return { s' with keyAllowed := true }.push ⟨.scalar text false, s.mark, stop⟩

/-- Skips blanks, comments and line breaks before a token. A key may begin on a new line. -/
def skipBetween : Nat → Scan → Except Fault Scan
  | 0, s => .ok s
  | fuel + 1, s => do
    let (ended, s) ← s.run do
      Reading.skipComment
      return !(← Reading.lineBreak).isEmpty
    if ended then skipBetween fuel { s with keyAllowed := s.keyAllowed || !s.inFlow }
    else return s

def skipByteOrderMark (s : Scan) : Scan :=
  if s.cursor.index = 0 && s.cursor.head = '\uFEFF' then { s with cursor := s.cursor.step } else s

/-- Whether a sign stands for itself because a blank follows it. -/
def standsAlone (s : Scan) : Bool := isGap (s.cursor.ahead 1)

/-- Characters that no plain scalar begins with. -/
def isIndicator (c : Char) : Bool :=
  isGap c || "-?:,[]\x7b\x7d#&*!|>'\"%@\x60".toList.contains c

def beginsPlain (s : Scan) : Bool :=
  let c := s.cursor.head
  !isIndicator c || (!s.standsAlone && (c == '-' || (!s.inFlow && (c == '?' || c == ':'))))

/-- Adds the token that begins at the next character. -/
def fetchToken (s : Scan) : Except Fault Scan :=
  let c := s.cursor.head
  let atLineStart := s.cursor.column == 0
  if c = endMark then s.fetchStreamEnd
  else if c = '%' && atLineStart then s.fetchDirective
  else if atLineStart && s.cursor.atSeparator '-' then s.fetchDocumentMark .documentStart
  else if atLineStart && s.cursor.atSeparator '.' then s.fetchDocumentMark .documentEnd
  else if c = '[' then s.fetchFlowStart .flowSequenceStart
  else if c = '\x7b' then s.fetchFlowStart .flowMappingStart
  else if c = ']' then s.fetchFlowEnd .flowSequenceEnd
  else if c = '\x7d' then s.fetchFlowEnd .flowMappingEnd
  else if c = ',' then s.fetchFlowEntry
  else if c = '-' && s.standsAlone then s.fetchBlockEntry
  else if c = '?' && (s.inFlow || s.standsAlone) then s.fetchKey
  else if c = ':' && (s.inFlow || s.standsAlone) then s.fetchValue
  else if c = '*' || c = '&' then s.fetchPart readAnchor
  else if c = '!' then s.fetchPart readTag
  else if c = '|' && !s.inFlow then s.fetchBlockScalar false
  else if c = '>' && !s.inFlow then s.fetchBlockScalar true
  else if c = '\'' then s.fetchQuoted false
  else if c = '"' then s.fetchQuoted true
  else if s.beginsPlain then s.fetchPlain
  else .error (.inside .nextToken none (.cannotStart c) s.mark)

/-- Adds the next tokens. -/
def fetch (s : Scan) : Except Fault Scan := do
  let s ← skipBetween (s.cursor.rest.length + 1) s.skipByteOrderMark
  let s ← s.dropStale
  fetchToken (s.unwindTo s.cursor.column)

/-- Adds tokens and drops candidates that the new place makes stale. -/
def next (s : Scan) : Except Fault Scan := do
  let s ← s.fetch
  if s.done then return s else s.dropStale

end Scan

/-- The tokens of a text, up to the first fault if there is one. -/
structure Tokens where
  tokens : List Token
  fault : Option Fault

/-- Every round takes a character or ends the text, which bounds the fuel. -/
def Scan.toTokens : Nat → Scan → Tokens
  | 0, s => ⟨s.tokens.reverse, none⟩
  | fuel + 1, s =>
    if s.done then ⟨s.tokens.reverse, none⟩
    else match s.next with
      | .ok s => s.toTokens fuel
      | .error f => ⟨(s.tokens.drop (s.count - s.certain)).reverse, some f⟩

def Token.readAll (text : List Char) : Tokens :=
  (Scan.start text).toTokens (text.length + 2)

end LineJoin.Yaml
