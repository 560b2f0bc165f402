import LineJoin.Text.Quoted
import LineJoin.Value.Basic

/-!
# Writing JSON

`Json.write` writes a value as JSON, either on one line or with one item per line and an indentation.
Characters stand as they are; only quotes, backslashes and controls are escaped. Values that JSON
does not know, which no reader gives, are written as null.
-/

namespace LineJoin.Json

def escapeChar (c : Char) : List Char :=
  if c = '"' then ['\\', '"']
  else if c = '\\' then ['\\', '\\']
  else if c = '\n' then ['\\', 'n']
  else if c = '\r' then ['\\', 'r']
  else if c = '\t' then ['\\', 't']
  else if c = '\x08' then ['\\', 'b']
  else if c = '\x0c' then ['\\', 'f']
  else if c.toNat < 32 then '\\' :: 'u' :: hexDigits 4 c.toNat
  else [c]

def stringText (cs : List Char) : List Char := '"' :: cs.flatMap escapeChar ++ ['"']

def floatText (x : Binary64) : String :=
  match x.view with
  | .nan => "NaN"
  | .infinite s => if s then "-Infinity" else "Infinity"
  | _ => x.text

/-- A name in an object, which is always a text. -/
def keyText (key : Value) : List Char :=
  match key.text? with
  | some s => stringText s.toList
  | none => stringText []

/-- How items are separated: by a comma and a blank, or on lines of their own. -/
inductive Layout where
  | oneLine
  | indented (width : Nat)

/-- What stands before an item at a depth; items after the first one follow a comma. -/
def Layout.lead (l : Layout) (depth : Nat) (first : Bool) : List Char :=
  match l with
  | .oneLine => if first then [] else [',', ' ']
  | .indented width =>
    (if first then [] else [',']) ++ '\n' :: List.replicate (width * depth) ' '

/-- What stands before a closing bracket. -/
def Layout.close (l : Layout) (depth : Nat) : List Char :=
  match l with
  | .oneLine => []
  | .indented width => '\n' :: List.replicate (width * depth) ' '

mutual
/-- A value at a depth, followed by a text. -/
def writeOnto (l : Layout) (depth : Nat) : Value → List Char → List Char
  | .null, k => "null".toList ++ k
  | .bool b, k => (if b then "true" else "false").toList ++ k
  | .int n, k => (intText n).toList ++ k
  | .float x, k => (floatText x).toList ++ k
  | .str s, k => stringText s.toList ++ k
  | .list [], k => '[' :: ']' :: k
  | .list (item :: items), k =>
    '[' :: l.lead (depth + 1) true ++ writeOnto l (depth + 1) item
      (writeItems l (depth + 1) items (l.close depth ++ ']' :: k))
  | .dict [], k => '\x7b' :: '\x7d' :: k
  | .dict (member :: members), k =>
    '\x7b' :: l.lead (depth + 1) true ++ writeMember l (depth + 1) member
      (writeMembers l (depth + 1) members (l.close depth ++ '\x7d' :: k))
  | .shared _ v, k => writeOnto l depth v k
  | _, k => "null".toList ++ k

def writeItems (l : Layout) (depth : Nat) : List Value → List Char → List Char
  | [], k => k
  | item :: items, k => l.lead depth false ++ writeOnto l depth item (writeItems l depth items k)

def writeMember (l : Layout) (depth : Nat) : Value × Value → List Char → List Char
  | (key, v), k => keyText key ++ ':' :: ' ' :: writeOnto l depth v k

def writeMembers (l : Layout) (depth : Nat) : List (Value × Value) → List Char → List Char
  | [], k => k
  | member :: members, k =>
    l.lead depth false ++ writeMember l depth member (writeMembers l depth members k)
end

def write (l : Layout) (v : Value) : List Char := writeOnto l 0 v []

end LineJoin.Json
