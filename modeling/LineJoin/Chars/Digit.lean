import LineJoin.Chars.Category

/-!
# Decimal digits

The digits of a script are ten characters in order from zero on, so the place of a digit tells its
value.
-/

namespace LineJoin

def isDecimalDigit (c : Char) : Bool := Category.decimalNumber.holds c.toNat

/-- The digit of the Latin script with the same value; other characters stay as they are. -/
def plainDigit (c : Char) : Char :=
  match Category.decimalNumberTable.find? (·.contains c.toNat) with
  | some s => Char.ofNat ((c.toNat - s.low) % 10 + 48)
  | none => c

end LineJoin
