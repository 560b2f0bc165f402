import LineJoin.Text.Capitals

/-!
# Case variants

The letters that are the same letter in another case. Two letters are variants if they have the
same capital; a few signs are variants of letters although no capital says so.
-/

namespace LineJoin

/-- The capital of a letter that has one of a single character. -/
def capitalOf (c : Nat) : Nat := (capitalRuns.findSome? (·.capital? c)).getD c

/-- Kelvin, Angstrom and Ohm signs, the capital sharp s and the dotted capital i, each with a letter
that it is a variant of. -/
def signVariants : List (Nat × Nat) :=
  [(0x212A, 0x4B), (0x212B, 0xC5), (0x2126, 0x3A9), (0x1E9E, 0xDF), (0x130, 0x49)]

/-- The letter that stands for all variants. -/
def variantClass (c : Nat) : Nat := (signVariants.lookup c).getD (capitalOf c)

/-- All variants of a letter, itself included. -/
def caseVariants (c : Nat) : List Nat :=
  let k := variantClass c
  (c :: k :: capitalRuns.filterMap (·.letterOf? k) ++
    (signVariants.filter (·.2 == k)).map (·.1)).eraseDups

end LineJoin
