import LineJoin.Number.Power

/-!
# Binary floating point numbers

A `Binary64` is the 64 bits of an IEEE 754 double. `Binary64.view` reads them as a sign and a
dyadic number `mantissa * 2 ^ exponent`; `Binary64.ofRatio` rounds a quotient of natural numbers
to the nearest double, a tie going to the even mantissa. Comparison, sum and product are defined
through these two on exact numbers.
-/

namespace LineJoin

structure Binary64 where
  bits : UInt64
deriving DecidableEq, Repr, Inhabited

namespace Binary64

/-- What a bit pattern stands for. A finite number is `± mantissa * 2 ^ exponent`. -/
inductive View where
  | nan
  | infinite (negative : Bool)
  | finite (negative : Bool) (mantissa : Nat) (exponent : Int)
deriving DecidableEq, Repr

def fractionBits : Nat := 52

/-- The exponent of the last place of the smallest numbers. -/
def leastExponent : Int := -1074

def negative (x : Binary64) : Bool := x.bits.toNat / twoTo 63 == 1

def exponentField (x : Binary64) : Nat := x.bits.toNat / twoTo fractionBits % twoTo 11

def fraction (x : Binary64) : Nat := x.bits.toNat % twoTo fractionBits

def view (x : Binary64) : View :=
  if x.exponentField = 2047 then
    if x.fraction = 0 then .infinite x.negative else .nan
  else if x.exponentField = 0 then .finite x.negative x.fraction leastExponent
  else .finite x.negative (x.fraction + twoTo fractionBits)
    ((x.exponentField : Int) - 1 + leastExponent)

def ofSigned (isNegative : Bool) (magnitude : Nat) : Binary64 :=
  ⟨UInt64.ofNat (magnitude + if isNegative then twoTo 63 else 0)⟩

def infinity (isNegative : Bool) : Binary64 := ofSigned isNegative (2047 * twoTo fractionBits)

def nan : Binary64 := ofSigned false (2047 * twoTo fractionBits + twoTo 51)

def zero : Binary64 := ofSigned false 0

/-- The natural number nearest to `n / d`, a half going to the even one. -/
def roundRatio (n d : Nat) : Nat :=
  let q := n / d
  let twice := 2 * (n % d)
  if twice < d then q else if twice = d then q + q % 2 else q + 1

/-- The greatest `e` with `2 ^ e ≤ n / d`, for `n` and `d` above zero. -/
def binaryExponent (n d : Nat) : Int :=
  let e : Int := (n.log2 : Int) - (d.log2 : Int)
  if d * twoTo e.toNat ≤ n * twoTo (-e).toNat then e else e - 1

/-- The double nearest to `± n / d`. -/
def ofRatio (isNegative : Bool) (n d : Nat) : Binary64 :=
  if n = 0 then ofSigned isNegative 0
  else
    let q := max (binaryExponent n d - fractionBits) leastExponent
    let mantissa := roundRatio (n * twoTo (-q).toNat) (d * twoTo q.toNat)
    let magnitude := (q - leastExponent).toNat * twoTo fractionBits + mantissa
    if 2047 * twoTo fractionBits ≤ magnitude then infinity isNegative
    else ofSigned isNegative magnitude

/-- An exact number `± num / den`. -/
structure Exact where
  negative : Bool
  num : Nat
  den : Nat

/-- The exact value of a finite number. -/
def exactValue? (x : Binary64) : Option Exact :=
  match x.view with
  | .finite s m e => some ⟨s, m * twoTo e.toNat, twoTo (-e).toNat⟩
  | _ => none

namespace Exact

def signedNum (a : Exact) : Int := if a.negative then -(a.num : Int) else a.num

def ofInt (n : Int) : Exact := ⟨n < 0, n.natAbs, 1⟩

def le (a b : Exact) : Bool := a.signedNum * b.den ≤ b.signedNum * a.den

def eq (a b : Exact) : Bool := a.signedNum * b.den == b.signedNum * a.den

end Exact

def ofInt (n : Int) : Binary64 := ofRatio (n < 0) n.natAbs 1

def neg (x : Binary64) : Binary64 :=
  if x.negative then ⟨UInt64.ofNat (x.bits.toNat - twoTo 63)⟩
  else ⟨UInt64.ofNat (x.bits.toNat + twoTo 63)⟩

/-- Equality of numbers: the two zeros are equal and NaN differs from itself. -/
def same (x y : Binary64) : Bool :=
  match x.view, y.view with
  | .nan, _ | _, .nan => false
  | .infinite s, .infinite t => s == t
  | .infinite _, _ | _, .infinite _ => false
  | _, _ =>
    match x.exactValue?, y.exactValue? with
    | some a, some b => a.eq b
    | _, _ => false

def le (x y : Binary64) : Bool :=
  match x.view, y.view with
  | .nan, _ | _, .nan => false
  | .infinite true, _ => true
  | _, .infinite false => true
  | .infinite false, _ => false
  | _, .infinite true => false
  | _, _ =>
    match x.exactValue?, y.exactValue? with
    | some a, some b => a.le b
    | _, _ => false

/-- Comparison with an integer is exact, not through the nearest double. -/
def sameInt (x : Binary64) (n : Int) : Bool :=
  match x.exactValue? with
  | some a => a.eq (.ofInt n)
  | none => false

def leInt (x : Binary64) (n : Int) : Bool :=
  match x.view with
  | .nan => false
  | .infinite s => s
  | _ => match x.exactValue? with
    | some a => a.le (.ofInt n)
    | none => false

def geInt (x : Binary64) (n : Int) : Bool :=
  match x.view with
  | .nan => false
  | .infinite s => !s
  | _ => match x.exactValue? with
    | some a => (Exact.ofInt n).le a
    | none => false

/-- The sum; two zeros of different sign, and opposite numbers, give a positive zero. -/
def add (x y : Binary64) : Binary64 :=
  match x.view, y.view with
  | .nan, _ | _, .nan => nan
  | .infinite s, .infinite t => if s == t then x else nan
  | .infinite _, _ => x
  | _, .infinite _ => y
  | _, _ =>
    match x.exactValue?, y.exactValue? with
    | some a, some b =>
      let total := a.signedNum * b.den + b.signedNum * a.den
      if total = 0 then ofSigned (a.num = 0 && a.negative && b.negative) 0
      else ofRatio (total < 0) total.natAbs (a.den * b.den)
    | _, _ => nan

def mul (x y : Binary64) : Binary64 :=
  let sign := x.negative != y.negative
  match x.view, y.view with
  | .nan, _ | _, .nan => nan
  | .infinite _, .finite _ 0 _ | .finite _ 0 _, .infinite _ => nan
  | .infinite _, _ | _, .infinite _ => infinity sign
  | _, _ =>
    match x.exactValue?, y.exactValue? with
    | some a, some b => ofRatio sign (a.num * b.num) (a.den * b.den)
    | _, _ => nan

end Binary64

end LineJoin
