/-!
# Powers

The powers of two and of ten, by which binary and decimal numbers are scaled.
-/

namespace LineJoin

def twoTo (n : Nat) : Nat := Nat.pow 2 n

def tenTo (n : Nat) : Nat := Nat.pow 10 n

end LineJoin
