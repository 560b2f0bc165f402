import LineJoin.Chars.Property
import LineJoin.Chars.Variant

/-!
# Patterns

The syntax of text patterns. A `Node` describes what may be matched from a place in a text on; its
parameter is the type of references to groups, which are names or numbers while a pattern is read
and numbers afterwards.
-/

namespace LineJoin.Pattern

/-- A member of a bracket class. -/
inductive SetItem where
  | code (c : Nat)
  | span (low high : Nat)
  | property (p : Property) (positive : Bool)
deriving DecidableEq, Repr

namespace SetItem

def holds : SetItem → Nat → Bool
  | code a, c => a == c
  | span low high, c => low ≤ c && c ≤ high
  | property p positive, c => p.holds c == positive

end SetItem

/-- A condition on one character. -/
inductive CharTest where
  | code (c : Nat)
  | anyInLine
  | any
  | property (p : Property) (positive : Bool)
  | set (positive : Bool) (items : List SetItem)
deriving DecidableEq, Repr

namespace CharTest

def accepts : CharTest → Nat → Bool
  | code a, c => a == c
  | anyInLine, c => c != 10
  | any, _ => true
  | property p positive, c => p.holds c == positive
  | set positive items, c => (items.any (·.holds c)) == positive

/-- A property of letters of one case, taken without regard to case. -/
def caseless : Property → Property
  | .categories [k] =>
    if Property.casedLetters.contains k then .categories Property.casedLetters else .categories [k]
  | p => p

/-- The condition without regard to case: some variant of the character is to meet it. -/
def acceptsCaseless : CharTest → Nat → Bool
  | code a, c => (caseVariants c).contains a
  | property p positive, c => (caseless p).holds c == positive
  | set positive items, c => ((caseVariants c).any fun v => items.any (·.holds v)) == positive
  | t, c => t.accepts c

end CharTest

/-- A condition on a place between two characters. -/
inductive Anchor where
  | textStart
  | lineStart
  | textEnd
  | lineEnd
  /-- The end of the text, or before a line feed that ends it. -/
  | lastLineEnd
  | wordBoundary (positive : Bool)
  | wordStart
  | wordEnd
  | graphemeBoundary
  /-- The place where the search for a match began. -/
  | searchStart
deriving DecidableEq, Repr

inductive Node (ρ : Type) where
  | empty
  | never
  | char (ignoreCase : Bool) (test : CharTest)
  | anchor (a : Anchor)
  | seq (first second : Node ρ)
  | alt (first second : Node ρ)
  | group (number : Nat) (body : Node ρ)
  /-- The body's first way of matching, and no other. -/
  | atomic (body : Node ρ)
  | look (behind positive : Bool) (body : Node ρ)
  | repeated (greedy : Bool) (least : Nat) (most : Option Nat) (body : Node ρ)
  | backref (ignoreCase : Bool) (group : ρ)
  | ifGroup (group : ρ) (yes no : Node ρ)
  /-- What the group is written with, or the whole pattern for group zero. -/
  | call (group : ρ)
  /-- What is replaced begins here. -/
  | keep
deriving Repr

namespace Node

variable {ρ σ : Type}

def sequence : List (Node ρ) → Node ρ
  | [] => empty
  | [n] => n
  | n :: rest => seq n (sequence rest)

def branches : List (Node ρ) → Node ρ
  | [] => empty
  | [n] => n
  | n :: rest => alt n (branches rest)

/-- Whether a node is written with nothing in it. Repeating such a node has no effect. -/
def isEmpty : Node ρ → Bool
  | empty => true
  | seq a b => a.isEmpty && b.isEmpty
  | alt a b => a.isEmpty && b.isEmpty
  | group _ body | atomic body | look _ _ body => body.isEmpty
  | ifGroup _ yes no => yes.isEmpty && no.isEmpty
  | _ => false

/-- Replaces the references, in the order in which they are written. -/
def resolve {ε : Type} (f : ρ → Except ε σ) : Node ρ → Except ε (Node σ)
  | empty => .ok empty
  | never => .ok never
  | char i t => .ok (char i t)
  | anchor a => .ok (anchor a)
  | seq a b => do
    let a ← a.resolve f
    let b ← b.resolve f
    return seq a b
  | alt a b => do
    let a ← a.resolve f
    let b ← b.resolve f
    return alt a b
  | group n body => do return group n (← body.resolve f)
  | atomic body => do return atomic (← body.resolve f)
  | look behind positive body => do return look behind positive (← body.resolve f)
  | repeated greedy least most body => do return repeated greedy least most (← body.resolve f)
  | backref i r => do return backref i (← f r)
  | ifGroup r yes no => do
    let r ← f r
    let yes ← yes.resolve f
    let no ← no.resolve f
    return ifGroup r yes no
  | call r => do return call (← f r)
  | keep => .ok keep

/-- What stands in the parentheses of a group. -/
def groupBody? (g : Nat) : Node ρ → Option (Node ρ)
  | group n body => if n = g then some body else body.groupBody? g
  | seq a b | alt a b => (a.groupBody? g).or (b.groupBody? g)
  | atomic body | look _ _ body | repeated _ _ _ body => body.groupBody? g
  | ifGroup _ yes no => (yes.groupBody? g).or (no.groupBody? g)
  | empty | never | char _ _ | anchor _ | backref _ _ | call _ | keep => none

/-- What a call stands for; group zero is the whole node. -/
def callee (root : Node ρ) (g : Nat) : Node ρ :=
  if g = 0 then root else (root.groupBody? g).getD never

end Node

end LineJoin.Pattern

namespace LineJoin

/-- A pattern that can be matched: its syntax, its number of groups, and how it was written. -/
structure Pattern where
  root : Pattern.Node Nat
  groups : Nat
  text : List Char

end LineJoin
