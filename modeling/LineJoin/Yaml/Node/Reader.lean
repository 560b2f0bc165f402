import LineJoin.Yaml.Node.Basic
import LineJoin.Yaml.Token.Reader

/-!
# Putting tokens together

`Node.read?` makes the node of a text that holds one document, or none for an empty text. Block
collections begin and end with tokens of their own; in flow collections separators and brackets do
that. Where a key or a value is missing there is an empty scalar.
-/

namespace LineJoin.Yaml

structure NodeState where
  tokens : List Token
  fault : Option Fault
  handles : List (String × String)
  /-- The place of each anchor, and its node once that is complete. -/
  anchors : List (String × Mark × Option Node)
  nextId : Nat
  /-- Some node was to hold itself. -/
  knotted : Bool := false

abbrev NodeReading (α : Type) : Type := StateT NodeState (Except Fault) α

namespace NodeReading

open Token

def standardHandles : List (String × String) := [("!", "!"), ("!!", Tag.common)]

/-- Fails with the fault that ends the tokens. -/
def failAtEnd {α : Type} : NodeReading α := do
  throw ((← get).fault.getD (.found .endOfStream ⟨0, 0⟩))

def peek : NodeReading Token := do
  match (← get).tokens with
  | t :: _ => return t
  | [] => failAtEnd

def skip : NodeReading Unit := modify fun s => { s with tokens := s.tokens.drop 1 }

def next : NodeReading Token := do
  let t ← peek
  skip
  return t

def newId : NodeReading Nat := do
  let s ← get
  set { s with nextId := s.nextId + 1 }
  return s.nextId

def emptyScalar (mark : Mark) : NodeReading Node := do
  return .scalar ⟨← newId, mark, .null, false⟩ []

/-! ## Properties -/

/-- The anchor and the tag that stand before a node. -/
structure Properties where
  anchor : Option String := none
  tag : Option (Option String × String) := none
  start : Option Mark := none
  tagMark : Option Mark := none

def readProperty (p : Properties) : NodeReading Properties := do
  let t ← peek
  match t.content, p.anchor, p.tag with
  | .anchor name, none, _ =>
    skip
    return { p with anchor := some name, start := p.start <|> some t.start }
  | .tag handle suffix, _, none =>
    skip
    return { p with tag := some (handle, suffix), start := p.start <|> some t.start
                    tagMark := some t.start }
  | _, _, _ => return p

def readProperties : NodeReading Properties := do readProperty (← readProperty {})

/-- The tag that is written, with its handle looked up. The bare exclamation mark is none. -/
def writtenTag? (p : Properties) : NodeReading (Option String) := do
  match p.tag with
  | none => return none
  | some (none, suffix) => return some suffix
  | some (some handle, suffix) =>
    match (← get).handles.lookup handle with
    | some lead => return some (lead ++ suffix)
    | none =>
      throw (.inside .node p.start (.undefinedHandle handle) (p.tagMark.getD ⟨0, 0⟩))

/-- The tag that a node has: the written one, or else a default. -/
def tagOr (written : Option String) (default : Tag) : Tag :=
  match written with
  | none => default
  | some "!" => default
  | some text => .ofText text

/-- The tag of a scalar. A plain one, and one with the bare exclamation mark, is told by its form. -/
def scalarTag (written : Option String) (plain : Bool) (text : List Char) : Tag :=
  match written with
  | none => if plain then .ofPlain text else .str
  | some "!" => .ofPlain text
  | some tag => .ofText tag

/-- Notes where an anchor is. A name can be used once. -/
def declare (p : Properties) (mark : Mark) : NodeReading Unit := do
  match p.anchor with
  | none => return ()
  | some name =>
    let s ← get
    match s.anchors.lookup name with
    | some (first, _) =>
      throw (.inside (.firstAnchor name) (some first) .secondAnchor mark)
    | none => set { s with anchors := (name, mark, none) :: s.anchors }

/-- Makes a node known under its anchor. -/
def complete (p : Properties) (n : Node) : NodeReading Node := do
  match p.anchor with
  | none => return n
  | some name =>
    modify fun s => { s with anchors := (name, n.mark, some n) :: s.anchors }
    return n

/-- The node that an alias stands for. A node that is not complete yet cannot hold itself, and an
empty scalar stands for it there. -/
def aliased (name : String) (mark : Mark) : NodeReading Node := do
  match (← get).anchors.lookup name with
  | some (_, some n) => return n
  | some (start, none) =>
    modify fun s => { s with knotted := true }
    emptyScalar start
  | none => throw (.found (.undefinedAlias name) mark)

/-! ## Nodes -/

def endsEntry : Content → Bool
  | .key | .value | .blockEnd => true
  | _ => false

def endsFlowItem : Content → Bool
  | .flowEntry | .flowSequenceEnd => true
  | _ => false

def endsFlowMember : Content → Bool
  | .flowEntry | .flowMappingEnd => true
  | _ => false

def expected {α : Type} (context : Context) (start : Mark) (wanted : String) : NodeReading α := do
  let t ← peek
  throw (.inside context (some start) (.expectedToken wanted t.content.name) t.start)

def expectedSeparator {α : Type} (context : Context) (start : Mark) (wanted : String) :
    NodeReading α := do
  let t ← peek
  throw (.inside context (some start) (.expectedSeparator wanted t.content.name) t.start)

/-- The separator between items of a flow collection, or nothing before the first one. -/
def separator (first : Bool) (context : Context) (start : Mark) (wanted : String) :
    NodeReading Unit := do
  if !first then
    if (← peek).content = .flowEntry then skip else expectedSeparator context start wanted

/-- Where block nodes can stand, and where a sequence need not be indented. -/
inductive Position where
  | flow
  | block
  | blockEntry
deriving DecidableEq

/-- Reads what stands after a sign, or an empty scalar if nothing does. -/
def optional (sign : Token) (stops : Content → Bool) (r : NodeReading Node) : NodeReading Node := do
  if stops (← peek).content then emptyScalar sign.stop else r

/-- Reads the value of an entry, or an empty scalar if there is none. -/
def valueOr (stops : Content → Bool) (r : NodeReading Node) : NodeReading Node := do
  let t ← peek
  if t.content = .value then
    skip
    optional t stops r
  else emptyScalar t.start

/-- Properties without content make an empty scalar. -/
def readEmpty (inBlock : Bool) (p : Properties) (written : Option String) (start : Mark) :
    NodeReading Node := do
  if p.start.isSome then
    declare p start
    complete p (.scalar ⟨← newId, start, scalarTag written true [], p.anchor.isSome⟩ [])
  else expected (.nodeContent inBlock) start "the node content"

mutual
/-- A node with its properties. Every call takes a token or hands one on to a call that does, which
bounds the fuel. -/
def readNode : Nat → Position → NodeReading Node
  | 0, _ => failAtEnd
  | fuel + 1, position => do
    let first ← peek
    if let .reference name := first.content then
      skip
      return ← aliased name first.start
    let p ← readProperties
    let written ← writtenTag? p
    let t ← peek
    let start := p.start.getD t.start
    let begin (default : Tag) : NodeReading NodeInfo := do
      declare p start
      return ⟨← newId, start, tagOr written default, p.anchor.isSome⟩
    let inBlock := position ≠ .flow
    match t.content with
    | .scalar text plain =>
      skip
      declare p start
      let tag := scalarTag written plain text
      complete p (.scalar ⟨← newId, start, tag, p.anchor.isSome⟩ text)
    | .flowSequenceStart =>
      let info ← begin .seq
      skip
      complete p (.sequence info (← readFlowItems fuel t.start true))
    | .flowMappingStart =>
      let info ← begin .map
      skip
      complete p (.ofEntries info (← readFlowMembers fuel t.start true))
    | .blockEntry =>
      if position = .blockEntry then
        let info ← begin .seq
        complete p (.sequence info (← readLooseItems fuel))
      else readEmpty inBlock p written start
    | .blockSequenceStart =>
      if inBlock then
        let info ← begin .seq
        skip
        complete p (.sequence info (← readBlockItems fuel t.start))
      else readEmpty inBlock p written start
    | .blockMappingStart =>
      if inBlock then
        let info ← begin .map
        skip
        complete p (.ofEntries info (← readBlockMembers fuel t.start))
      else readEmpty inBlock p written start
    | _ => readEmpty inBlock p written start

def readBlockItems : Nat → Mark → NodeReading (List Node)
  | 0, _ => failAtEnd
  | fuel + 1, start => do
    let t ← peek
    if t.content = .blockEntry then
      skip
      let stops (c : Content) : Bool := c == .blockEntry || c == .blockEnd
      let item ← optional t stops (readNode fuel .block)
      return item :: (← readBlockItems fuel start)
    if t.content ≠ .blockEnd then expected .blockSequence start "<block end>"
    skip
    return []

/-- The items of a sequence that is not indented under its key. -/
def readLooseItems : Nat → NodeReading (List Node)
  | 0 => failAtEnd
  | fuel + 1 => do
    let t ← peek
    if t.content = .blockEntry then
      skip
      let stops (c : Content) : Bool := c == .blockEntry || endsEntry c
      let item ← optional t stops (readNode fuel .block)
      return item :: (← readLooseItems fuel)
    return []

def readBlockMembers : Nat → Mark → NodeReading (List (Node × Node))
  | 0, _ => failAtEnd
  | fuel + 1, start => do
    let t ← peek
    if t.content = .key then
      skip
      let key ← optional t endsEntry (readNode fuel .blockEntry)
      let value ← valueOr endsEntry (readNode fuel .blockEntry)
      return (key, value) :: (← readBlockMembers fuel start)
    if t.content ≠ .blockEnd then expected .blockMapping start "<block end>"
    skip
    return []

def readFlowItems : Nat → Mark → Bool → NodeReading (List Node)
  | 0, _, _ => failAtEnd
  | fuel + 1, start, first => do
    if (← peek).content ≠ .flowSequenceEnd then
      separator first .flowSequence start "',' or ']'"
      let t ← peek
      if t.content = .key then
        let id ← newId
        skip
        let stops (c : Content) : Bool := c == .value || endsFlowItem c
        let key ← optional t stops (readNode fuel .flow)
        let value ← valueOr endsFlowItem (readNode fuel .flow)
        let pair := Node.ofEntries ⟨id, t.start, .map, false⟩ [(key, value)]
        return pair :: (← readFlowItems fuel start false)
      if t.content ≠ .flowSequenceEnd then
        let item ← readNode fuel .flow
        return item :: (← readFlowItems fuel start false)
    skip
    return []

def readFlowMembers : Nat → Mark → Bool → NodeReading (List (Node × Node))
  | 0, _, _ => failAtEnd
  | fuel + 1, start, first => do
    if (← peek).content ≠ .flowMappingEnd then
      separator first .flowMapping start "',' or '\x7d'"
      let t ← peek
      if t.content = .key then
        skip
        let stops (c : Content) : Bool := c == .value || endsFlowMember c
        let key ← optional t stops (readNode fuel .flow)
        let value ← valueOr endsFlowMember (readNode fuel .flow)
        return (key, value) :: (← readFlowMembers fuel start false)
      if t.content ≠ .flowMappingEnd then
        let key ← readNode fuel .flow
        let value ← emptyScalar (← peek).start
        return (key, value) :: (← readFlowMembers fuel start false)
    skip
    return []
end

/-! ## Documents -/

/-- The directives before a document. -/
def readDirectives : Nat → Bool → List (String × String) → NodeReading (List (String × String))
  | 0, _, handles => return handles
  | fuel + 1, versioned, handles => do
    let t ← peek
    match t.content with
    | .version major _ =>
      skip
      if versioned then throw (.found .duplicateVersion t.start)
      if major ≠ 1 then throw (.found .incompatibleVersion t.start)
      readDirectives fuel true handles
    | .tagHandle handle lead =>
      skip
      if (handles.lookup handle).isSome then
        throw (.found (.duplicateHandle handle) t.start)
      readDirectives fuel versioned ((handle, lead) :: handles)
    | .otherDirective =>
      skip
      readDirectives fuel versioned handles
    | _ => return handles

/-- The directives and the sign that begin a document. -/
def beginDocument : NodeReading Unit := do
  let handles ← readDirectives ((← get).tokens.length + 1) false []
  let t ← peek
  if t.content ≠ .documentStart then
    throw (.found (.expectedToken "'<document start>'" t.content.name) t.start)
  skip
  modify fun s => { s with handles := handles ++ standardHandles }

/-- Skips the ends of documents. -/
def skipEnds : Nat → NodeReading Unit
  | 0 => return ()
  | fuel + 1 => do
    if (← peek).content = .documentEnd then
      skip
      skipEnds fuel

def isBare (c : Content) : Bool :=
  c.isDirective || c == .documentStart || c == .documentEnd || c == .streamEnd

def readDocument : NodeReading (Option Node) := do
  let fuel := 4 * (← get).tokens.length + 8
  let first ← peek
  if first.content = .streamEnd then return none
  let node ← if first.content.isDirective || first.content = .documentStart then do
      beginDocument
      let t ← peek
      if isBare t.content then emptyScalar t.start else readNode fuel .block
    else readNode fuel .block
  skipEnds fuel
  let t ← peek
  if t.content = .streamEnd then return some node
  beginDocument
  throw (.inside .document (some node.mark) .secondDocument t.start)

end NodeReading

/-- Reads the node of a text that holds at most one document. -/
def Node.readAll (text : List Char) : Except Fault (Option Node × NodeState) :=
  let t := Token.readAll text
  NodeReading.readDocument.run
    { tokens := t.tokens, fault := t.fault, handles := NodeReading.standardHandles, anchors := []
      nextId := 0 }

/-- The node of a text that holds at most one document. -/
def Node.read? (text : List Char) : Except Fault (Option Node) := do
  let (node, _) ← readAll text
  return node

end LineJoin.Yaml
