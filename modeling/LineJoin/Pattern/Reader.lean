import LineJoin.Pattern.Limits

/-!
# The pattern language

`Pattern.read` reads the text of a pattern. A sequence of elements ends at a closing parenthesis or
a bar; bars separate alternatives. Quantifiers follow the element they repeat. References to groups
are checked once the whole text has been read, in the order in which they are written.
-/

namespace LineJoin.Pattern

open Reader

variable [CharacterNames]

structure Quantifier where
  least : Nat
  most : Option Nat

def countLimit : Nat := 0xFFFFFFFF

/-- Counts in braces; without proper counts the brace stands for itself. -/
def readCounts : Reader (Option Quantifier) := do
  let start ← position
  let found ← attempt do
    let least ← takeWhile isDigit
    let q : Option Quantifier ←
      if ← accept ',' then
        let most ← takeWhile isDigit
        pure (some ⟨digitsValue least, if most.isEmpty then none else some (digitsValue most)⟩)
      else if least.isEmpty then pure none
      else pure (some ⟨digitsValue least, some (digitsValue least)⟩)
    match q with
    | none => return none
    | some q => if ← accept '\x7d' then return some q else return none
  match found with
  | none => return none
  | some q =>
    if countLimit ≤ q.least || q.most.any (countLimit ≤ ·) then failAt start .countTooBig
    else if q.most.any (· < q.least) then failAt start .leastAboveMost
    else return some q

def readQuantifier (c : Char) : Reader (Option Quantifier) := do
  match c with
  | '?' => return some ⟨0, some 1⟩
  | '*' => return some ⟨0, none⟩
  | '+' => return some ⟨1, none⟩
  | '\x7b' => readCounts
  | _ => return none

/-- Repeats an element. A sign after the quantifier makes it lazy or possessive. -/
def quantify (q : Quantifier) (element : Node Ref) : Reader (Node Ref) := do
  let isLazy ← accept '?'
  let possessive ← if isLazy then pure false else accept '+'
  if element.isEmpty || (q.least = 1 && q.most = some 1) then return element
  else
    let node := Node.repeated (!isLazy) q.least q.most element
    return if possessive then .atomic node else node

/-- The letters of flags, and how many there are. -/
def readFlagLetters : Nat → Reader (Nat × Flags)
  | 0 => return (0, {})
  | fuel + 1 => do
    let letter ← attempt do
      match ← next with
      | some c => return Flags.ofLetter? c
      | none => return none
    match letter with
    | some f =>
      let (n, g) ← readFlagLetters fuel
      return (n + 1, f.union g)
    | none => return (0, {})

/-- Flags that ask for other ways of matching. -/
def otherFlags : List Char := ['a', 'b', 'e', 'f', 'L', 'p', 'r', 'V', 'w']

/-- Fails where flags do not go on. -/
def failAtFlag {α : Type} (p : Problem) : Reader α := do
  let s ← get
  let other := (ahead s).2.head?.any otherFlags.contains
  failAt s.position (if other then .beyondMatching else p)

structure FlagChange where
  on : Flags
  off : Flags

def readFlagChange : Reader FlagChange := do
  let (_, on) ← readFlagLetters ((← get).rest.length)
  if ← accept '-' then
    let (n, off) ← readFlagLetters ((← get).rest.length)
    if n = 0 then failAtFlag .noFlagsAfterDash else return ⟨on, off⟩
  else return ⟨on, {}⟩

/-- Flags in parentheses of their own hold for the whole pattern and can only be turned on. -/
def applyGlobally (change : FlagChange) : Reader Unit := do
  let s ← get
  if change.off != {} then fail .flagsTurnedOff
  else if change.on.without s.globalFlags != {} then
    throw (.restart (s.globalFlags.union change.on))
  else setFlags s.flags

def skipComment : Nat → Reader Unit
  | 0 => expect ')'
  | fuel + 1 => do
    let s ← get
    match ← nextExact with
    | none => set s; expect ')'
    | some ')' => set s; expect ')'
    | some '\\' => let _ ← nextExact; skipComment fuel
    | some _ => skipComment fuel

/-- A reference inside parentheses, up to the closing one. -/
def readParenthesisedReference (place : Nat) : Reader (Node Ref) := do
  let name ← readName true
  expect ')'
  if ← isOpenGroup name then failAt place .openReference
  else return .backref (← flags).ignoreCase ⟨name, place, .again⟩

/-- A call of a named group. -/
def readCall (place : Nat) : Reader (Node Ref) := do
  let name ← readName false
  expect ')'
  return .call ⟨name, place, .call⟩

/-- A call of a group by its number, which begins with a given character, or of the whole pattern. -/
def readNumberedCall (first : Char) (place : Nat) : Reader (Node Ref) := do
  let more ← if first = 'R' then pure [] else takeWhile isDigit
  expect ')'
  return .call ⟨if first = 'R' then ['0'] else first :: more, place, .call⟩

/-- The word of a verb after an opening parenthesis and an asterisk. -/
def readVerb : Reader (Option (Node Ref)) := do
  let place ← position
  let word ← takeWhile fun c => c != ')' && c != '>'
  match word with
  | c :: _ =>
    if Property.letters.any (·.holds c.toNat) then
      match String.ofList word with
      | "FAIL" | "F" => expect ')'; return some .never
      | "PRUNE" | "SKIP" => expect ')'; fail .beyondMatching
      | _ => failAt place .unknownVerb
    else return none
  | [] => return none

def dot (flags : Flags) : Node Ref :=
  .char false (if flags.dotAll then .any else .anyInLine)

def lineStartAnchor (flags : Flags) : Node Ref :=
  .anchor (if flags.multiline then .lineStart else .textStart)

def lineEndAnchor (flags : Flags) : Node Ref :=
  .anchor (if flags.multiline then .lineEnd else .lastLineEnd)

/-- Elements read so far, the latest first. A quantifier may follow an element but not the start of
a sequence and not another quantifier. -/
structure Sequence where
  elements : List (Node Ref) := []
  quantifiable : Bool := false

namespace Sequence

def push (s : Sequence) (n : Node Ref) : Sequence := ⟨n :: s.elements, true⟩

def toNode (s : Sequence) : Node Ref := Node.sequence s.elements.reverse

end Sequence

/-- Repeats the latest element of a sequence. -/
def applyQuantifier (q : Quantifier) (place : Nat) (s : Sequence) : Reader Sequence := do
  match s.quantifiable, s.elements with
  | true, element :: rest => return ⟨(← quantify q element) :: rest, false⟩
  | _, [] => failAt place .nothingToRepeat
  | _, _ :: _ => failAt place .multipleRepeat

/-- Limits of errors in matching the latest element of a sequence. -/
def applyLimits (l : Limits) (place : Nat) (s : Sequence) : Reader Sequence := do
  if !l.allowErrors then return s
  else if s.quantifiable then fail .beyondMatching
  else failAt place .nothingToApproximate

/-- What follows a brace that begins no quantifier. -/
def readBrace (c : Char) : Reader (Option Limits) := do
  if c = '\x7b' then readLimits else return none

/-- A group with a number of its own. -/
def countedGroup (inside : Reader (Node Ref)) : Reader (Node Ref) := do
  let n ← openGroup none
  let body ← inside
  closeGroup
  return .group n body

mutual
/-- Alternatives, up to a closing parenthesis or the end. -/
def readAlternatives : Nat → Reader (Node Ref)
  | 0 => return .empty
  | fuel + 1 => do
    let first ← readSequence fuel {}
    return Node.branches (first :: (← readMoreAlternatives fuel))

def readMoreAlternatives : Nat → Reader (List (Node Ref))
  | 0 => return []
  | fuel + 1 => do
    if ← accept '|' then
      let branch ← readSequence fuel {}
      return branch :: (← readMoreAlternatives fuel)
    else return []

/-- Elements, up to a bar, a closing parenthesis or the end. -/
def readSequence : Nat → Sequence → Reader (Node Ref)
  | 0, s => return s.toNode
  | fuel + 1, s => do
    let before ← get
    match ← next with
    | none => set before; return s.toNode
    | some c =>
      if c = ')' || c = '|' then
        set before
        return s.toNode
      else if c = '\\' then
        let atom ← readEscape false
        readSequence fuel (s.push (atom.toNode before.flags.ignoreCase))
      else if c = '(' then
        match ← readParenthesis fuel with
        | some n => readSequence fuel (s.push n)
        | none => readSequence fuel s
      else if c = '.' then readSequence fuel (s.push (dot before.flags))
      else if c = '[' then
        let test ← readSet
        readSequence fuel (s.push (.char before.flags.ignoreCase test))
      else if c = '^' then readSequence fuel (s.push (lineStartAnchor before.flags))
      else if c = '$' then readSequence fuel (s.push (lineEndAnchor before.flags))
      else
        match ← readQuantifier c with
        | some q => readSequence fuel (← applyQuantifier q before.position s)
        | none =>
          match ← readBrace c with
          | some l => readSequence fuel (← applyLimits l before.position s)
          | none => readSequence fuel (s.push (.char before.flags.ignoreCase (.code c.toNat)))

/-- What stands in parentheses, after the opening one. Comments and flags give nothing. -/
def readParenthesis : Nat → Reader (Option (Node Ref))
  | 0 => return none
  | fuel + 1 => do
    let s ← get
    match s.rest with
    | '?' :: _ =>
      let _ ← nextExact
      let place ← position
      match ← nextExact with
      | some '<' =>
        let afterAngle ← get
        match ← next with
        | some '=' => return some (.look true true (← readBody fuel s.flags))
        | some '!' => return some (.look true false (← readBody fuel s.flags))
        | _ =>
          set afterAngle
          return some (← readNamedGroup fuel s.flags)
      | some '=' => return some (.look false true (← readBody fuel s.flags))
      | some '!' => return some (.look false false (← readBody fuel s.flags))
      | some 'P' => return some (← readExtension fuel s.flags)
      | some '#' => skipComment s.rest.length; return none
      | some '(' => return some (← readCondition fuel s.flags)
      | some '>' => return some (.atomic (← readBody fuel s.flags))
      | some '|' => return some (← readReset fuel)
      | some '&' => return some (← readCall place)
      | found =>
        match found.filter fun c => c == 'R' || isDigit c with
        | some c => return some (← readNumberedCall c place)
        | none =>
          set { s with rest := s.rest.drop 1, position := place }
          readFlagged fuel
    | '*' :: _ =>
      let _ ← nextExact
      match ← readVerb with
      | some n => return some n
      | none =>
        set s
        return some (← countedGroup (readBody fuel s.flags))
    | _ => return some (← countedGroup (readBody fuel s.flags))

/-- The inside of a group and its closing parenthesis; flags set inside end with it. -/
def readBody : Nat → Flags → Reader (Node Ref)
  | 0, _ => return .empty
  | fuel + 1, outer => do
    let body ← readAlternatives fuel
    expect ')'
    setFlags outer
    return body

def readNamedGroup : Nat → Flags → Reader (Node Ref)
  | 0, _ => return .empty
  | fuel + 1, outer => do
    let name ← readName false
    let n ← openGroup (some name)
    expect '>'
    let body ← readBody fuel outer
    closeGroup
    return .group n body

/-- What follows `(?P`. -/
def readExtension : Nat → Flags → Reader (Node Ref)
  | 0, _ => return .empty
  | fuel + 1, outer => do
    let place ← position
    match ← next with
    | some '<' => readNamedGroup fuel outer
    | some '=' => readParenthesisedReference place
    | some '>' => readCall place
    | some '&' => readCall place
    | _ => failAt place .unknownExtension

/-- A choice by whether a group has matched, or by a look-around. -/
def readCondition : Nat → Flags → Reader (Node Ref)
  | 0, _ => return .empty
  | fuel + 1, outer => do
    let place ← position
    match ← attempt lookKind with
    | some (behind, positive) =>
      let look ← readBody fuel outer
      let (yes, no) ← readBranches fuel
      setFlags outer
      return .alt (.seq (.look behind positive look) yes) (.seq (.look behind (!positive) look) no)
    | none =>
      let name ← readName true
      expect ')'
      let (yes, no) ← readBranches fuel
      setFlags outer
      if yes.isEmpty && no.isEmpty then return .empty
      else return .ifGroup ⟨name, place, .condition⟩ yes no
where
  lookKind : Reader (Option (Bool × Bool)) := do
    if ← accept '?' then
      match ← next with
      | some '=' => return some (false, true)
      | some '!' => return some (false, false)
      | some '<' =>
        match ← next with
        | some '=' => return some (true, true)
        | some '!' => return some (true, false)
        | _ => return none
      | _ => return none
    else return none

/-- One or two sequences and the closing parenthesis. -/
def readBranches : Nat → Reader (Node Ref × Node Ref)
  | 0 => return (.empty, .empty)
  | fuel + 1 => do
    let yes ← readSequence fuel {}
    let no ← if ← accept '|' then readSequence fuel {} else pure .empty
    expect ')'
    return (yes, no)

/-- Alternatives that number their groups alike. -/
def readReset : Nat → Reader (Node Ref)
  | 0 => return .empty
  | fuel + 1 => do
    let initial := (← get).groupCount
    let first ← readSequence fuel {}
    let (rest, final) ← readMoreReset fuel initial (← get).groupCount
    modify fun s => { s with groupCount := final }
    expect ')'
    return Node.branches (first :: rest)

def readMoreReset : Nat → Nat → Nat → Reader (List (Node Ref) × Nat)
  | 0, _, final => return ([], final)
  | fuel + 1, initial, final => do
    if ← accept '|' then
      modify fun s => { s with groupCount := initial }
      let branch ← readSequence fuel {}
      let (rest, final) ← readMoreReset fuel initial (max final (← get).groupCount)
      return (branch :: rest, final)
    else return ([], final)

/-- Flags, for the whole pattern or for what follows a colon. -/
def readFlagged : Nat → Reader (Option (Node Ref))
  | 0 => return none
  | fuel + 1 => do
    let outer ← flags
    let change ← readFlagChange
    if change.on.meets change.off then fail .flagOnAndOff
    else if ← accept ':' then
      setFlags ((outer.union change.on).without change.off)
      return some (← readBody fuel outer)
    else if ← accept ')' then
      applyGlobally change
      return none
    else failAtFlag .unknownExtension
end

/-- The number that a reference stands for. A call of a group that is opened more than once could mean
any of them. -/
def Ref.number (s : ReadState) (r : Ref) : Except Fault Nat :=
  let fault {α : Type} (p : Problem) : Except Fault α := .error ⟨p, r.position⟩
  let named? := if r.name.all isDigit then some (digitsValue r.name) else s.groupNames.lookup r.name
  match r.kind, named? with
  | .call, none => fault .invalidReference
  | .call, some n =>
    if s.groupCount < n then fault .unknownGroup
    else if 0 < n && 1 < s.opened.count n then fault .ambiguousReference
    else .ok n
  | .condition, none => if r.name = "DEFINE".toList then .ok 0 else fault .unknownGroup
  | .condition, some n => if n ≤ s.groupCount then .ok n else fault .invalidReference
  | .again, none => fault .unknownGroup
  | .again, some n => if 1 ≤ n && n ≤ s.groupCount then .ok n else fault .invalidReference

/-- A whole pattern text read with given flags. -/
def readWhole : Reader (Node Ref) := do
  let root ← readAlternatives (6 * (← get).rest.length + 8)
  if ← atEnd then return root else fail .unbalanced

/-- Reads a pattern text, again with more flags as often as the text sets them. -/
def readWith (text : List Char) : Nat → Flags → Except Fault Pattern
  | 0, _ => .error ⟨.unbalanced, 0⟩
  | fuel + 1, flags =>
    match readWhole.run (.start text flags) with
    | .error (.fault f) => .error f
    | .error (.restart more) => readWith text fuel more
    | .ok (root, s) => do
      let root ← root.resolve (Ref.number s)
      return { root, groups := s.groupCount, text }

/-- Reads a pattern text. There are four flags, so reading starts at most five times. -/
def read (text : List Char) : Except Fault Pattern := readWith text 5 {}

end LineJoin.Pattern
