import LineJoin.Text.Quoted
import LineJoin.Value.Display
import LineJoin.Yaml.Base64
import LineJoin.Yaml.Tag

/-!
# Drafts of YAML texts

A `Draft` is what is to be written for a value: scalars with their texts, sequences and mappings. A
value that occurs a second time is not written again: it gets an anchor where it occurs first and
aliases after that. Objects, rules and mappings that cannot be changed have no draft;
`Value.unwritable?` finds the first of these in a value.
-/

namespace LineJoin.Yaml

inductive Draft where
  | scalar (anchor : Option Nat) (tag : Tag) (text : List Char)
  | sequence (anchor : Option Nat) (items : List Draft)
  | mapping (anchor : Option Nat) (tag : Tag) (entries : List (Draft × Draft))
  | reference (anchor : Nat)
deriving Inhabited

/-! ## Values that cannot be written -/

mutual
/-- The first value inside a value, keys included, that cannot be written. -/
def unwritable? : Value → Option Value
  | .frozen entries => some (.frozen entries)
  | .object fields => some (.object fields)
  | .rule r => some (.rule r)
  | .list items | .tuple items | .set items => unwritableItem? items
  | .dict entries => unwritableEntry? entries
  | .shared _ v => unwritable? v
  | _ => none

def unwritableItem? : List Value → Option Value
  | [] => none
  | v :: rest => unwritable? v <|> unwritableItem? rest

def unwritableEntry? : List (Value × Value) → Option Value
  | [] => none
  | e :: rest => unwritableIn? e <|> unwritableEntry? rest

def unwritableIn? : Value × Value → Option Value
  | (key, v) => unwritable? key <|> unwritable? v
end

/-! ## Values that occur twice -/

/-- What makes a value the same one at two places. Very short bytes are the same wherever they
occur. -/
inductive Identity where
  | shared (id : Nat)
  | bytes (data : List UInt8)
deriving DecidableEq, Repr

def identity? : Value → Option Identity
  | .bytes data => if data.length ≤ 1 then some (.bytes data) else none
  | .shared id v => (identity? v).getD (.shared id)
  | _ => none

/-- The identities met so far, and those met again in the order of their second occurrence. -/
structure Census where
  seen : List Identity := []
  repeated : List Identity := []

/-- Counts a value, and what is inside it when it is met first. -/
def Census.meet (c : Census) (id? : Option Identity) (inside : Census → Census) : Census :=
  match id? with
  | none => inside c
  | some id =>
    if !c.seen.contains id then inside { c with seen := id :: c.seen }
    else if c.repeated.contains id then c
    else { c with repeated := c.repeated ++ [id] }

mutual
/-- Counts a value of the given identity. -/
def census (id? : Option Identity) : Value → Census → Census
  | .list items, c | .tuple items, c | .set items, c => c.meet id? (censusItems items)
  | .dict entries, c => c.meet id? (censusEntries entries)
  | .shared _ v, c => census id? v c
  | _, c => c.meet id? id

def censusItems : List Value → Census → Census
  | [], c => c
  | v :: rest, c => censusItems rest (census (identity? v) v c)

def censusEntries : List (Value × Value) → Census → Census
  | [], c => c
  | e :: rest, c => censusEntries rest (censusEntry e c)

def censusEntry : Value × Value → Census → Census
  | (key, v), c => census (identity? v) v (census (identity? key) key c)
end

/-- The identities of the values that occur more than once in a value. -/
def repeatedIn (v : Value) : List Identity := (census (identity? v) v {}).repeated

/-! ## Drafts of values -/

/-- A number with a point in it, also where an exponent follows. -/
def floatText (x : Binary64) : List Char :=
  match x.view with
  | .nan => ".nan".toList
  | .infinite s => (if s then "-.inf" else ".inf").toList
  | .finite _ _ _ =>
    let cs := x.text.toList
    if cs.contains '.' then cs
    else cs.takeWhile (· != 'e') ++ ".0".toList ++ cs.dropWhile (· != 'e')

/-- The tag and the text of a value that is written as a scalar. -/
def scalarOf : Value → Tag × List Char
  | .null => (.null, "null".toList)
  | .bool b => (.bool, (if b then "true" else "false").toList)
  | .int n => (.int, (intText n).toList)
  | .float x => (.float, floatText x)
  | .str s => (.str, s.toList)
  | .bytes data => (.binary, Base64.encode data)
  | .day d => (.timestamp, d.text.toList)
  | .moment m => (.timestamp, m.text.toList)
  | v => (.str, v.display.toList)

/-- The identities that have been written already. -/
abbrev Drafting (α : Type) : Type := StateM (List Identity) α

/-- The draft of a value at one of its places: what `make` gives where it is met first. -/
def occurrence (repeated : List Identity) (id? : Option Identity)
    (make : Option Nat → Drafting Draft) : Drafting Draft := do
  match id? with
  | none => make none
  | some id =>
    if !repeated.contains id then return ← make none
    let number := repeated.idxOf id + 1
    if (← get).contains id then return .reference number
    modify (id :: ·)
    make (some number)

mutual
/-- The draft of a value of the given identity. -/
def draft (repeated : List Identity) (id? : Option Identity) : Value → Drafting Draft
  | .list items | .tuple items =>
    occurrence repeated id? fun anchor => return .sequence anchor (← draftItems repeated items)
  | .set items =>
    occurrence repeated id? fun anchor => do
      let keys ← draftItems repeated items
      return .mapping anchor .set (keys.map fun k => (k, .scalar none .null "null".toList))
  | .dict entries =>
    occurrence repeated id? fun anchor =>
      return .mapping anchor .map (← draftEntries repeated entries)
  | .shared _ v => draft repeated id? v
  | v => occurrence repeated id? fun anchor =>
      return .scalar anchor (scalarOf v).1 (scalarOf v).2

def draftItems (repeated : List Identity) : List Value → Drafting (List Draft)
  | [] => return []
  | v :: rest => return (← draft repeated (identity? v) v) :: (← draftItems repeated rest)

def draftEntries (repeated : List Identity) : List (Value × Value) → Drafting (List (Draft × Draft))
  | [] => return []
  | e :: rest => return (← draftEntry repeated e) :: (← draftEntries repeated rest)

def draftEntry (repeated : List Identity) : Value × Value → Drafting (Draft × Draft)
  | (key, v) =>
    return (← draft repeated (identity? key) key, ← draft repeated (identity? v) v)
end

def Draft.ofValue (v : Value) : Draft := ((draft (repeatedIn v) (identity? v) v).run []).1

end LineJoin.Yaml
