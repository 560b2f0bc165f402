import LineJoin.Pattern.Matcher

/-!
# Searching and replacing

`Pattern.occurrences` lists the matches of a pattern in a text from left to right, none overlapping
another. After an empty match the next one has to end further on. `Pattern.keepFirstGroup` replaces
every match, or what of it comes after a mark that keeps the rest, by what the first group took.
-/

namespace LineJoin.Pattern

/-- A match: the place where it starts and the state after it. -/
structure Occurrence where
  start : Cursor
  stop : State

namespace Occurrence

def firstGroup? (o : Occurrence) : Option (List Char) := o.stop.captured? 1

/-- Where the text that is replaced begins. -/
def begins (o : Occurrence) : Nat := o.stop.memory.kept.getD o.start.index

def isEmptyMatch (o : Occurrence) : Bool :=
  o.begins == o.stop.cursor.index || o.start.index == o.stop.cursor.index

end Occurrence

/-- The first match from a place on, in a search that began at the origin. If `advance` is set, a match
may not end at that place. -/
def searchFrom (p : Node Nat) (origin : Nat) (advance : Bool) (before : List Char) (index : Nat) :
    List Char → Option Occurrence
  | [] => attempt [] fun _ => none
  | x :: rest =>
    attempt (x :: rest) fun _ => searchFrom p origin false (x :: before) (index + 1) rest
where
  attempt (after : List Char) (next : Unit → Option Occurrence) : Option Occurrence :=
    let c : Cursor := ⟨before, after, index⟩
    match p.start (.begin origin c) fun e =>
      if advance && e.cursor.index == index then none else some e with
    | some e => some ⟨c, e⟩
    | none => next ()

def search (p : Node Nat) (origin : Nat) (advance : Bool) (c : Cursor) : Option Occurrence :=
  searchFrom p origin advance c.before c.index c.after

/-- The matches from a place on; after each the search begins anew. Every two matches move on by a
character, which bounds the fuel. -/
def occurrencesFrom (p : Node Nat) : Nat → Nat → Bool → Cursor → List Occurrence
  | 0, _, _, _ => []
  | fuel + 1, origin, advance, c =>
    match search p origin advance c with
    | none => []
    | some o =>
      o :: occurrencesFrom p fuel o.stop.cursor.index o.isEmptyMatch o.stop.cursor

def occurrencesIn (p : Node Nat) (text : List Char) : List Occurrence :=
  occurrencesFrom p (2 * text.length + 2) 0 false (.start text)

/-- The text from a place on, with every match replaced by what its first group took. -/
def keepFirstFrom (c : Cursor) : List Occurrence → List Char
  | [] => c.after
  | o :: rest =>
    c.after.take (o.begins - c.index) ++ (o.firstGroup?.getD []) ++
      keepFirstFrom o.stop.cursor rest

end LineJoin.Pattern

namespace LineJoin.Pattern

def occurrences (p : Pattern) (text : List Char) : List Occurrence := occurrencesIn p.root text

def keepFirstGroup (p : Pattern) (text : List Char) : List Char :=
  keepFirstFrom (.start text) (p.occurrences text)

end LineJoin.Pattern
