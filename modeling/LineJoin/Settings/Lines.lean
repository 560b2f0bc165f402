import LineJoin.Text.Blank
import LineJoin.Text.Cut

/-!
# Finding the line of a key

`lineOf?` finds the line of a key in the lines of a settings file. The key is given with the keys of
its sections, joined by dots. Sections are told by indentation; blank lines, comments and list items
are passed over.
-/

namespace LineJoin.Settings

/-- An enclosing section: its indentation and its key. -/
structure Enclosing where
  indent : Nat
  key : List Char

def isQuote (c : Char) : Bool := c == '\'' || c == '"'

/-- The key of a line: what stands before the first colon, without blanks and quotes around it. -/
def keyOf (stripped : List Char) : List Char :=
  trim isQuote (strip (stripped.takeWhile (· != ':')))

def isPassedOver (stripped : List Char) : Bool :=
  match stripped with
  | [] => true
  | c :: _ => c == '#' || c == '-'

def indentOf (line : List Char) : Nat := (line.takeWhile isBlank).length

/-- Looks through lines, the first of which has the given number. The sections around the current
line come innermost first. -/
def search (keys : List (List Char)) : Nat → List Enclosing → List (List Char) → Option Nat
  | _, _, [] => none
  | number, sections, line :: rest =>
    let stripped := strip line
    if isPassedOver stripped then search keys (number + 1) sections rest
    else
      let indent := indentOf line
      let sections := sections.dropWhile fun s => indent ≤ s.indent
      let key := keyOf stripped
      if (sections.map (·.key)).reverse ++ [key] = keys then some number
      else if stripped.getLast? = some ':' then
        search keys (number + 1) (⟨indent, key⟩ :: sections) rest
      else search keys (number + 1) sections rest

def lineOf? (path : String) (lines : List (List Char)) : Option Nat :=
  search (cutAt '.' path.toList) 1 [] lines

end LineJoin.Settings
