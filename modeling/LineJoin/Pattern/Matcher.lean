import LineJoin.Chars.Grapheme
import LineJoin.Pattern.Basic

/-!
# Matching

`Node.run` matches a node from a place in a text on and hands every way of matching, the preferred
one first, to the rest of the match; the first one that the rest accepts is taken. A look-behind is
matched backwards, with the parts of a sequence in reverse order. The recursion is on the syntax;
only repetition counts, and no repetition goes on after a round that took nothing. What a call of a
group does is a parameter of the recursion: `Node.calls` matches the group in turn, with calls in it
one level deeper.
-/

namespace LineJoin.Pattern

/-- A place in a text: what stands before it, nearest first, and what stands after it. -/
structure Cursor where
  before : List Char
  after : List Char
  index : Nat
deriving Repr

namespace Cursor

def start (text : List Char) : Cursor := ⟨[], text, 0⟩

def forward? (c : Cursor) : Option (Char × Cursor) :=
  match c.after with
  | [] => none
  | x :: rest => some (x, ⟨x :: c.before, rest, c.index + 1⟩)

def backward? (c : Cursor) : Option (Char × Cursor) :=
  match c.before with
  | [] => none
  | x :: rest => some (x, ⟨rest, x :: c.after, c.index - 1⟩)

/-- The text between two places, in whichever order they stand. -/
def between (a b : Cursor) : List Char :=
  if a.index ≤ b.index then a.after.take (b.index - a.index)
  else b.after.take (a.index - b.index)

end Cursor

/-- What is known in a match besides its place. -/
structure Memory where
  /-- The texts that groups have taken, the latest first. -/
  captures : List (Nat × List Char)
  /-- Where the replaced text begins if that is not the start of the match. -/
  kept : Option Nat
  /-- Where the search for the match began. -/
  origin : Nat

namespace Memory

def capture (m : Memory) (n : Nat) (text : List Char) : Memory :=
  { m with captures := (n, text) :: m.captures }

end Memory

structure State where
  cursor : Cursor
  memory : Memory

namespace State

/-- The start of a match, in a search that began at the origin. -/
def begin (origin : Nat) (c : Cursor) : State := ⟨c, [], none, origin⟩

def capture (s : State) (n : Nat) (text : List Char) : State :=
  { s with memory := s.memory.capture n text }

def captured? (s : State) (n : Nat) : Option (List Char) := s.memory.captures.lookup n

/-- Puts the start of the replaced text here. -/
def keep (s : State) : State := { s with memory.kept := some s.cursor.index }

/-- A called group knows of no other groups. -/
def enter (s : State) : State := { s with memory.captures := [] }

/-- After a call the groups have what they had before it. -/
def leave (s e : State) : State := { e with memory.captures := s.memory.captures }

/-- Takes one character in a direction. -/
def take? (s : State) (backward : Bool) : Option (Char × State) :=
  (if backward then s.cursor.backward? else s.cursor.forward?).map fun (c, cursor) =>
    (c, { s with cursor })

/-- How many characters there are to take in a direction. -/
def room (s : State) (backward : Bool) : Nat :=
  if backward then s.cursor.before.length else s.cursor.after.length

end State

abbrev Rest := State → Option State

/-- What calls of groups do. -/
abbrev Calls := Nat → Bool → State → Rest → Option State

/-- One way to go on after the other. -/
def orElse (first : Option State) (second : Unit → Option State) : Option State :=
  match first with
  | some s => some s
  | none => second ()

/-- Repeats a step. A round that takes nothing is the last one. -/
def iterate (step : State → Rest → Option State) (greedy : Bool) :
    Nat → Nat → Option Nat → State → Rest → Option State
  | 0, _, _, s, k => k s
  | fuel + 1, least, most, s, k =>
    let again : Unit → Option State := fun _ => step s fun e =>
      if e.cursor.index = s.cursor.index then k e
      else iterate step greedy fuel (least - 1) (most.map (· - 1)) e k
    if most = some 0 then k s
    else if 0 < least then again ()
    else if greedy then orElse (again ()) fun _ => k s
    else orElse (k s) again

def isWordAt : Option Char → Bool
  | some c => Property.word.holds c.toNat
  | none => false

namespace Anchor

def holds (a : Anchor) (origin : Nat) (c : Cursor) : Bool :=
  let left := isWordAt c.before.head?
  let right := isWordAt c.after.head?
  match a with
  | textStart => c.before.isEmpty
  | lineStart => c.before.isEmpty || c.before.head? == some '\n'
  | textEnd => c.after.isEmpty
  | lineEnd => c.after.isEmpty || c.after.head? == some '\n'
  | lastLineEnd => c.after.isEmpty || c.after == ['\n']
  | wordBoundary positive => (left != right) == positive
  | wordStart => !left && right
  | wordEnd => left && !right
  | graphemeBoundary => Grapheme.isBoundary c.before c.after
  | searchStart => c.index == origin

end Anchor

def acceptsChar (ignoreCase : Bool) (t : CharTest) (c : Char) : Bool :=
  if ignoreCase then t.acceptsCaseless c.toNat else t.accepts c.toNat

def sameChar (ignoreCase : Bool) (a b : Char) : Bool :=
  a == b || (ignoreCase && (caseVariants a.toNat).contains b.toNat)

/-- Takes the characters of a list one by one. -/
def takeText (ignoreCase backward : Bool) : List Char → State → Option State
  | [], s => some s
  | c :: rest, s =>
    match s.take? backward with
    | some (x, s') => if sameChar ignoreCase c x then takeText ignoreCase backward rest s' else none
    | none => none

namespace Node

def run (calls : Calls) : Node Nat → Bool → State → Rest → Option State
  | empty, _, s, k => k s
  | never, _, _, _ => none
  | char ignoreCase test, backward, s, k =>
    match s.take? backward with
    | some (c, s') => if acceptsChar ignoreCase test c then k s' else none
    | none => none
  | anchor a, _, s, k => if a.holds s.memory.origin s.cursor then k s else none
  | seq a b, false, s, k => a.run calls false s fun e => b.run calls false e k
  | seq a b, true, s, k => b.run calls true s fun e => a.run calls true e k
  | alt a b, backward, s, k => orElse (a.run calls backward s k) fun _ => b.run calls backward s k
  | group n body, backward, s, k =>
    body.run calls backward s fun e => k (e.capture n (s.cursor.between e.cursor))
  | atomic body, backward, s, k =>
    match body.run calls backward s some with
    | some e => k e
    | none => none
  | look behind positive body, _, s, k =>
    match positive, body.run calls behind s some with
    | true, some e => k { s with memory := e.memory }
    | false, none => k s
    | _, _ => none
  | repeated greedy least most body, backward, s, k =>
    iterate (fun s k => body.run calls backward s k) greedy (s.room backward + 1) least most s k
  | backref ignoreCase n, backward, s, k =>
    match s.captured? n with
    | some text =>
      match takeText ignoreCase backward (if backward then text.reverse else text) s with
      | some e => k e
      | none => none
    | none => none
  | ifGroup n yes no, backward, s, k =>
    match s.captured? n with
    | some _ => yes.run calls backward s k
    | none => no.run calls backward s k
  | call n, backward, s, k => calls n backward s k
  | keep, _, s, k => k s.keep

/-- Calls in a pattern, within each other at most so many times. -/
def calls (root : Node Nat) : Nat → Calls
  | 0, _, _, _, _ => none
  | depth + 1, n, backward, s, k =>
    (root.callee n).run (root.calls depth) backward s.enter fun e => k (s.leave e)

/-- How deep calls may go. -/
def callDepth : Nat := 1000000

/-- Matches a whole pattern. -/
def start (root : Node Nat) (s : State) (k : Rest) : Option State :=
  root.run (root.calls callDepth) false s k

/-- Whether a whole text can be matched. -/
def matchesAll (p : Node Nat) (text : List Char) : Bool :=
  (p.start (.begin 0 (.start text)) fun e =>
    if e.cursor.after.isEmpty then some e else none).isSome

end Node

end LineJoin.Pattern
