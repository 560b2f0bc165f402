import LineJoin.Console.Emoji
import LineJoin.Text.Columns
import LineJoin.Text.Line

/-!
# Messages with markup

Messages to the user are written with style tags such as `[bold red]`; texts of others are put in
with `escape`, so that tags in them are shown and not obeyed. `Markup.render` gives the characters of
a message without styles.
-/

namespace LineJoin.Markup

def beginsTag (c : Char) : Bool := ('a' ≤ c && c ≤ 'z') || c == '#' || c == '/' || c == '@'

/-- The tag that a text begins with, brackets included, and the rest. -/
def readTag : List Char → Option (List Char × List Char)
  | '[' :: c :: rest =>
    if beginsTag c then
      let inside := rest.takeWhile fun c => c != '[' && c != ']'
      match rest.drop inside.length with
      | ']' :: after => some ('[' :: c :: inside ++ [']'], after)
      | _ => none
    else none
  | _ => none

/-- A message cut at its tags. -/
inductive Piece where
  | text (cs : List Char)
  /-- A tag with the number of backslashes before it. -/
  | tag (backslashes : Nat) (cs : List Char)
deriving DecidableEq, Repr

/-- Puts a character before pieces. -/
def consChar (c : Char) : List Piece → List Piece
  | .text cs :: rest => .text (c :: cs) :: rest
  | pieces => .text [c] :: pieces

/-- The pieces of a text. All backslashes directly before a tag belong to it. -/
def piecesOf : Nat → List Char → List Piece
  | 0, _ => []
  | _, [] => []
  | fuel + 1, c :: rest =>
    let backslashes := ((c :: rest).takeWhile (· == '\\')).length
    match readTag ((c :: rest).drop backslashes) with
    | some (tag, after) => .tag backslashes tag :: piecesOf fuel after
    | none => consChar c (piecesOf fuel rest)

def pieces (cs : List Char) : List Piece := piecesOf cs.length cs

/-! ## Escaping -/

def backslashes (n : Nat) : List Char := List.replicate n '\\'

def Piece.escaped : Piece → List Char
  | text cs => cs
  | tag n cs => backslashes (2 * n + 1) ++ cs

/-- Doubles a single backslash at the end, which might come to stand before a tag. -/
def guardEnd (cs : List Char) : List Char :=
  match cs.reverse with
  | '\\' :: '\\' :: _ => cs
  | '\\' :: _ => cs ++ ['\\']
  | _ => cs

def escape (cs : List Char) : List Char := guardEnd ((pieces cs).flatMap Piece.escaped)

/-! ## Rendering -/

/-- A backslash before a bracket is dropped. -/
def dropBackslashes : List Char → List Char
  | [] => []
  | '\\' :: '[' :: rest => '[' :: dropBackslashes rest
  | c :: rest => c :: dropBackslashes rest

/-- Controls that are not shown: bell, backspace, vertical tab, form feed and carriage return. -/
def isDropped (c : Char) : Bool := [7, 8, 11, 12, 13].contains c.toNat

def plainText (cs : List Char) : List Char :=
  (Emoji.replace (dropBackslashes cs)).filter fun c => !isDropped c

/-- Two backslashes before a tag are shown as one; a single one makes the tag a text. -/
def Piece.shown : Piece → List Char
  | text cs => plainText cs
  | tag n cs => plainText (backslashes (n / 2)) ++ if n % 2 = 1 then plainText cs else []

/-- The distance of tab stops. -/
def tabStop : Nat := 8

/-- A line with blanks for its tabs, from a column on. -/
def expandTabs (column : Nat) : List Char → List Char
  | [] => []
  | c :: rest =>
    if c = '\t' then
      let next := (column / tabStop + 1) * tabStop
      List.replicate (next - column) ' ' ++ expandTabs next rest
    else c :: expandTabs (column + columns c) rest

def joinLines : List (List Char) → List Char
  | [] => []
  | [line] => line
  | line :: rest => line ++ '\n' :: joinLines rest

/-- The characters of a message. -/
def render (cs : List Char) : List Char :=
  joinLines ((lines ((pieces cs).flatMap Piece.shown)).map (expandTabs 0))

end LineJoin.Markup
