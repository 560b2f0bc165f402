import LineJoin.Text.Cut

/-!
# Spans of code points

A character table is a list of inclusive spans of code points. `Span.readTable` reads the written
form of a long table: hexadecimal spans separated by blanks, such as `3041-3096 309D`.
-/

namespace LineJoin

structure Span where
  low : Nat
  high : Nat
deriving DecidableEq, Repr

namespace Span

def single (c : Nat) : Span := ⟨c, c⟩

def contains (s : Span) (c : Nat) : Bool := s.low ≤ c && c ≤ s.high

theorem contains_iff (s : Span) (c : Nat) : s.contains c ↔ s.low ≤ c ∧ c ≤ s.high := by
  simp [contains]

/-- Whether some span of a table holds the code point. -/
def covers (table : List Span) (c : Nat) : Bool := table.any (·.contains c)

theorem covers_iff (table : List Span) (c : Nat) :
    covers table c ↔ ∃ s ∈ table, s.low ≤ c ∧ c ≤ s.high := by
  simp [covers, contains]

def hexValue? (c : Char) : Option Nat :=
  if '0' ≤ c && c ≤ '9' then some (c.toNat - 48)
  else if 'a' ≤ c && c ≤ 'f' then some (c.toNat - 87)
  else if 'A' ≤ c && c ≤ 'F' then some (c.toNat - 55)
  else none

/-- The number that a list of hexadecimal digits writes; other characters are passed over. -/
def hexNumber (digits : List Char) : Nat :=
  digits.foldl (fun n c => match hexValue? c with
    | some d => 16 * n + d
    | none => n) 0

def readEntry (entry : List Char) : Span :=
  match cutAt '-' entry with
  | [low, high] => ⟨hexNumber low, hexNumber high⟩
  | _ => single (hexNumber entry)

/-- The words of some lines. -/
def words (lines : List String) : List (List Char) :=
  lines.flatMap fun line => (cutAt ' ' line.toList).filter (!·.isEmpty)

def readTable (lines : List String) : List Span := (words lines).map readEntry

end Span

/-- Half of a pair of sixteen-bit units, which is no character when it stands alone. -/
def isHalf (n : Nat) : Bool := 0xD800 ≤ n && n < 0xE000

end LineJoin
