import LineJoin.Text.Cut

/-!
# Lines

A text is cut into lines at each line feed. Text files may end their lines with a carriage return,
a line feed or both; `unifyBreaks` makes each of them a line feed.
-/

namespace LineJoin

/-- The lines of a text, without their line feeds. There is always at least one. -/
def lines (cs : List Char) : List (List Char) := cutAt '\n' cs

def unifyBreaks : List Char → List Char
  | [] => []
  | '\r' :: '\n' :: rest => '\n' :: unifyBreaks rest
  | c :: rest => (if c = '\r' then '\n' else c) :: unifyBreaks rest

end LineJoin
