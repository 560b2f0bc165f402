import LineJoin.Chars.Span

/-!
# Blank characters

The white space that stripping removes: spaces of all widths, tabs, line and page breaks and the
separator controls `1C` to `1F`.
-/

namespace LineJoin

def blankTable : List Span :=
  [⟨0x9, 0xD⟩, ⟨0x1C, 0x20⟩, ⟨0x85, 0x85⟩, ⟨0xA0, 0xA0⟩, ⟨0x1680, 0x1680⟩, ⟨0x2000, 0x200A⟩,
    ⟨0x2028, 0x2029⟩, ⟨0x202F, 0x202F⟩, ⟨0x205F, 0x205F⟩, ⟨0x3000, 0x3000⟩]

def isBlank (c : Char) : Bool := Span.covers blankTable c.toNat

/-- Drops the longest end on which the predicate holds. -/
def dropEnd (p : Char → Bool) (cs : List Char) : List Char := (cs.reverse.dropWhile p).reverse

/-- Drops on both ends. -/
def trim (p : Char → Bool) (cs : List Char) : List Char := dropEnd p (cs.dropWhile p)

def strip (cs : List Char) : List Char := trim isBlank cs

end LineJoin
