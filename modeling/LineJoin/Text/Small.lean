import LineJoin.Text.Capitals

/-!
# Small letters

`smalls` writes a text in small letters, so that texts which differ in case only become equal.
A letter's small form is the first letter with that capital, except for the letters listed here.
ASCII needs no table.
-/

namespace LineJoin

/-- Pairs written as one letter, letters that share a capital with a variant of theirs, and signs
that look like a letter; each with its small form. -/
def smallExceptions : List (Nat × List Nat) :=
  [(0x130, [0x69, 0x307]), (0x1C4, [0x1C6]), (0x1C5, [0x1C6]), (0x1C7, [0x1C9]), (0x1C8, [0x1C9]),
    (0x1CA, [0x1CC]), (0x1CB, [0x1CC]), (0x1F1, [0x1F3]), (0x1F2, [0x1F3]), (0x399, [0x3B9]),
    (0x39C, [0x3BC]), (0x3A3, [0x3C3]), (0x3F4, [0x3B8]), (0x1E9E, [0xDF]), (0x1FBC, [0x1FB3]),
    (0x1FCC, [0x1FC3]), (0x1FFC, [0x1FF3]), (0x2126, [0x3C9]), (0x212A, [0x6B]), (0x212B, [0xE5]),
    (0xA64A, [0xA64B])]

/-- Greek capitals with a small iota beside them. Their small forms stand eight places before. -/
def iotaCapitals : List Span := [⟨0x1F88, 0x1F8F⟩, ⟨0x1F98, 0x1F9F⟩, ⟨0x1FA8, 0x1FAF⟩]

def smallsOf (c : Char) : List Char :=
  if c.toNat < 0x80 then [c.toLower]
  else match smallExceptions.lookup c.toNat with
  | some letters => letters.map Char.ofNat
  | none =>
    if Span.covers iotaCapitals c.toNat then [Char.ofNat (c.toNat - 8)]
    else match capitalRuns.findSome? (·.letterOf? c.toNat) with
      | some letter => [Char.ofNat letter]
      | none => [c]

def smalls (s : String) : String := String.ofList (s.toList.flatMap smallsOf)

end LineJoin
