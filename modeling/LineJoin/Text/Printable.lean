import LineJoin.Chars.Category

/-!
# Printable characters

The characters that a quoted text shows as they are. Controls, format characters, unassigned and
private code points, and separators other than the space are not among them.
-/

namespace LineJoin

def unprintableCategories : List Category :=
  [.control, .format, .surrogate, .privateUse, .unassigned, .spaceSeparator, .lineSeparator,
    .paragraphSeparator]

def isPrintable (c : Char) : Bool :=
  if c.toNat < 127 then 32 ≤ c.toNat else !unprintableCategories.any (·.holds c.toNat)

end LineJoin
