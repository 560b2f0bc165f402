import LineJoin.Pattern.Basic
import LineJoin.Pattern.Fault
import LineJoin.Text.Blank

/-!
# Reading pattern texts

The state in which a pattern text is read, and the steps that take characters from it. In verbose
patterns blanks, and comments from `#` to the end of the line, are passed over before each
character. A flag that holds for the whole pattern interrupts the reading, which starts again with
the flag set.
-/

namespace LineJoin.Pattern

structure Flags where
  ignoreCase : Bool := false
  multiline : Bool := false
  dotAll : Bool := false
  verbose : Bool := false
deriving DecidableEq, Repr

namespace Flags

def union (a b : Flags) : Flags :=
  ⟨a.ignoreCase || b.ignoreCase, a.multiline || b.multiline, a.dotAll || b.dotAll,
    a.verbose || b.verbose⟩

def without (a b : Flags) : Flags :=
  ⟨a.ignoreCase && !b.ignoreCase, a.multiline && !b.multiline, a.dotAll && !b.dotAll,
    a.verbose && !b.verbose⟩

def meets (a b : Flags) : Bool :=
  (a.ignoreCase && b.ignoreCase) || (a.multiline && b.multiline) || (a.dotAll && b.dotAll) ||
    (a.verbose && b.verbose)

/-- The flag of a letter. All texts are Unicode, so the letter for that adds nothing. -/
def ofLetter? : Char → Option Flags
  | 'i' => some { ignoreCase := true }
  | 'm' => some { multiline := true }
  | 's' => some { dotAll := true }
  | 'x' => some { verbose := true }
  | 'u' => some {}
  | _ => none

end Flags

/-- What a reference to a group is for. -/
inductive RefKind where
  | again
  /-- The name `DEFINE` of a condition stands for a group that is never set. -/
  | condition
  | call
deriving DecidableEq, Repr

/-- A reference to a group as it is written, by number or by name. -/
structure Ref where
  name : List Char
  position : Nat
  kind : RefKind
deriving Repr

structure ReadState where
  rest : List Char
  position : Nat
  /-- Blanks and comments are passed over. -/
  skips : Bool
  flags : Flags
  /-- The flags that hold for the whole pattern. -/
  globalFlags : Flags
  groupCount : Nat
  groupNames : List (List Char × Nat)
  openGroups : List Nat
  /-- All groups that have been opened, as often as they have been. -/
  opened : List Nat

namespace ReadState

def start (text : List Char) (flags : Flags) : ReadState :=
  { rest := text, position := 0, skips := flags.verbose, flags, globalFlags := flags,
    groupCount := 0, groupNames := [], openGroups := [], opened := [] }

end ReadState

/-- Why reading stops early. -/
inductive Interrupt where
  | fault (f : Fault)
  | restart (flags : Flags)

abbrev Reader := StateT ReadState (Except Interrupt)

namespace Reader

def failAt {α : Type} (position : Nat) (p : Problem) : Reader α :=
  throw (.fault ⟨p, position⟩)

def position : Reader Nat := do return (← get).position

def fail {α : Type} (p : Problem) : Reader α := do failAt (← position) p

/-- Passes over blanks and comments, with the place counted on. The flag says whether a comment is
going on. -/
def skipFrom : Bool → Nat → List Char → Nat × List Char
  | _, n, [] => (n, [])
  | true, n, c :: rest =>
    if c = '\n' then skipFrom false (n + 1) rest else skipFrom true (n + 1) rest
  | false, n, c :: rest =>
    if isBlank c then skipFrom false (n + 1) rest
    else if c = '#' then skipFrom true (n + 1) rest
    else (n, c :: rest)

/-- The place and the text after what is passed over. -/
def ahead (s : ReadState) : Nat × List Char :=
  if s.skips then skipFrom false s.position s.rest else (s.position, s.rest)

/-- Takes one character; none at the end. -/
def next : Reader (Option Char) := do
  let s ← get
  match ahead s with
  | (n, []) => set { s with rest := [], position := n }; return none
  | (n, c :: rest) => set { s with rest, position := n + 1 }; return some c

/-- Takes one character without passing over anything. -/
def nextExact : Reader (Option Char) := do
  let s ← get
  match s.rest with
  | [] => return none
  | c :: rest => set { s with rest, position := s.position + 1 }; return some c

/-- Takes a character if it is the given one. -/
def accept (c : Char) : Reader Bool := do
  let s ← get
  match ahead s with
  | (_, []) => return false
  | (n, x :: rest) =>
    if x = c then set { s with rest, position := n + 1 }; return true
    else return false

def expect (c : Char) : Reader Unit := do
  if !(← accept c) then fail (.missing (String.singleton c))

/-- Takes characters as long as the predicate holds, passing over blanks and comments between
them in verbose patterns. -/
def takeSkipping (p : Char → Bool) : Bool → Nat → List Char → List Char × Nat × List Char
  | _, n, [] => ([], n, [])
  | true, n, c :: rest =>
    if c = '\n' then takeSkipping p false (n + 1) rest else takeSkipping p true (n + 1) rest
  | false, n, c :: rest =>
    if isBlank c then takeSkipping p false (n + 1) rest
    else if c = '#' then takeSkipping p true (n + 1) rest
    else if p c then
      let (taken, n', rest') := takeSkipping p false (n + 1) rest
      (c :: taken, n', rest')
    else ([], n, c :: rest)

def takeExactly (p : Char → Bool) : Reader (List Char) := do
  let s ← get
  let taken := s.rest.takeWhile p
  set { s with rest := s.rest.dropWhile p, position := s.position + taken.length }
  return taken

def takeWhile (p : Char → Bool) : Reader (List Char) := do
  let s ← get
  if s.skips then
    let (taken, n, rest) := takeSkipping p false s.position s.rest
    set { s with rest, position := n }
    return taken
  else takeExactly p

/-- Runs a step and goes back to where it began if it gives nothing. -/
def attempt {α : Type} (step : Reader (Option α)) : Reader (Option α) := do
  let s ← get
  match ← step with
  | some a => return some a
  | none => set s; return none

/-- Looks at what a step gives without taking anything. -/
def peek {α : Type} (step : Reader α) : Reader α := do
  let s ← get
  let a ← step
  set s
  return a

/-- Sets the flags for what follows. -/
def setFlags (flags : Flags) : Reader Unit :=
  modify fun s => { s with flags, skips := flags.verbose }

def flags : Reader Flags := do return (← get).flags

/-- Nothing is left but what is passed over. -/
def atEnd : Reader Bool := do return (ahead (← get)).2.isEmpty

/-- Numbers not taken by a name, the first one after `n`. -/
def freeNumber (names : List (List Char × Nat)) : Nat → Nat → Nat
  | n, 0 => n + 1
  | n, fuel + 1 => if names.any (·.2 == n + 1) then freeNumber names (n + 1) fuel else n + 1

/-- Begins a group. A name that was used before stands for the same group again. -/
def openGroup (name : Option (List Char)) : Reader Nat := do
  let s ← get
  match name with
  | none =>
    let n := s.groupCount + 1
    set { s with groupCount := n, openGroups := n :: s.openGroups, opened := n :: s.opened }
    return n
  | some name =>
    match s.groupNames.lookup name with
    | some n =>
      set { s with openGroups := n :: s.openGroups, opened := n :: s.opened }
      return n
    | none =>
      let n := freeNumber s.groupNames s.groupCount s.groupNames.length
      set { s with groupCount := n, groupNames := (name, n) :: s.groupNames,
                   openGroups := n :: s.openGroups, opened := n :: s.opened }
      return n

def closeGroup : Reader Unit := modify fun s => { s with openGroups := s.openGroups.drop 1 }

/-- Whether a reference is to a group that has not been closed yet. -/
def isOpenGroup (name : List Char) : Reader Bool := do
  let s ← get
  let number :=
    if name.all isDigit then some (digitsValue name) else s.groupNames.lookup name
  return match number with
  | some n => s.openGroups.contains n
  | none => false

end Reader

end LineJoin.Pattern
