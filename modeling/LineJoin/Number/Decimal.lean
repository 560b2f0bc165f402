import LineJoin.Number.Binary64

/-!
# Decimal texts of numbers

`Decimal.shortest` finds the decimal with the fewest digits that rounds back to a given double,
and of those the nearest one. `Binary64.text` writes it positionally from `0.0001` to below
`10 ^ 16` and with an exponent otherwise. `Binary64.ofDecimal` reads a decimal, correctly rounded.
-/

namespace LineJoin

def digitChar (d : Nat) : Char := Char.ofNat (48 + d)

/-- The decimal digits of a number, most significant first. -/
def decimalDigits (n : Nat) : List Char := Nat.toDigits 10 n

def natText (n : Nat) : String := String.ofList (decimalDigits n)

def intText (n : Int) : String :=
  if n < 0 then "-" ++ natText n.natAbs else natText n.natAbs

def isDigit (c : Char) : Bool := '0' ≤ c && c ≤ '9'

def digitValue (c : Char) : Nat := c.toNat - 48

/-- The number that a list of digits writes in base ten. -/
def digitsValue (ds : List Char) : Nat := ds.foldl (fun n c => 10 * n + digitValue c) 0

/-- Integers with more digits are refused. -/
def digitLimit : Nat := 4300

def tooManyDigitsMessage (count : Nat) : String :=
  "Exceeds the limit (" ++ natText digitLimit ++
    " digits) for integer string conversion: value has " ++ natText count ++
    " digits; use sys.set_int_max_str_digits() to increase the limit"

/-- The positive decimal `digits * 10 ^ exponent`. -/
structure Decimal where
  digits : Nat
  exponent : Int
deriving DecidableEq, Repr

namespace Decimal

/-- The value as a quotient. -/
def ratio (d : Decimal) : Nat × Nat :=
  (d.digits * tenTo d.exponent.toNat, tenTo (-d.exponent).toNat)

/-- The least `t` from `start` on with `10 ^ t * n ≥ d`, looked for `fuel` times. -/
def raise (n d : Nat) : Nat → Nat → Nat
  | start, 0 => start
  | start, fuel + 1 => if d ≤ n * tenTo start then start else raise n d (start + 1) fuel

/-- The number `p` with `10 ^ (p - 1) ≤ n / d < 10 ^ p`. -/
def pointPosition (n d : Nat) : Int :=
  if d ≤ n then ((decimalDigits (n / d)).length : Int)
  else 1 - (raise n d 1 400 : Int)

/-- The numbers that round to one double, as numerators over a common denominator. -/
structure Interval where
  low : Nat
  value : Nat
  high : Nat
  den : Nat
  closed : Bool

/-- A number halfway to its neighbour rounds to the even one, so the ends belong to the interval of
an even mantissa. Below a power of two the neighbour is twice as near. -/
def interval (mantissa : Nat) (exponent : Int) : Interval :=
  let up := twoTo exponent.toNat
  let narrow := mantissa = twoTo Binary64.fractionBits ∧ Binary64.leastExponent < exponent
  { low := (4 * mantissa - if narrow then 1 else 2) * up
    value := 4 * mantissa * up
    high := (4 * mantissa + 2) * up
    den := 4 * twoTo (-exponent).toNat
    closed := mantissa % 2 = 0 }

def Interval.contains (i : Interval) (n d : Nat) : Bool :=
  if i.closed then i.low * d ≤ n * i.den && n * i.den ≤ i.high * d
  else i.low * d < n * i.den && n * i.den < i.high * d

/-- The decimals next to the value on the grid of multiples of `10 ^ k` that lie in the interval,
the nearer one if both do, the even one at equal distance. -/
def onGrid (i : Interval) (k : Int) : Option Decimal :=
  let n := i.value * tenTo (-k).toNat
  let d := i.den * tenTo k.toNat
  let floor := n / d
  let fits (m : Nat) : Bool :=
    0 < m && i.contains (m * tenTo k.toNat) (tenTo (-k).toNat)
  match fits floor, fits (floor + 1) with
  | true, true =>
    let nearest := Binary64.roundRatio n d
    some ⟨nearest, k⟩
  | true, false => some ⟨floor, k⟩
  | false, true => some ⟨floor + 1, k⟩
  | false, false => none

/-- Tries grids with one more digit each time; seventeen digits always suffice. -/
def search (i : Interval) (point : Int) : Nat → Nat → Decimal
  | _, 0 => ⟨Binary64.roundRatio i.value i.den, 0⟩
  | count, fuel + 1 =>
    match onGrid i (point - count) with
    | some d => d
    | none => search i point (count + 1) fuel

/-- The shortest decimal that reads back as `mantissa * 2 ^ exponent`. -/
def shortest (mantissa : Nat) (exponent : Int) : Decimal :=
  let i := interval mantissa exponent
  search i (pointPosition i.value i.den) 1 17

end Decimal

namespace Binary64

/-- A decimal far outside the range of doubles is cut off first, so that no huge power is formed. -/
def ofDecimal (isNegative : Bool) (d : Decimal) : Binary64 :=
  let size : Int := (decimalDigits d.digits).length + d.exponent
  if d.digits = 0 then ofSigned isNegative 0
  else if 400 < size then infinity isNegative
  else if size < -400 then ofSigned isNegative 0
  else ofRatio isNegative d.ratio.1 d.ratio.2

def exponentText (e : Int) : String :=
  let digits := decimalDigits e.natAbs
  (if e < 0 then "e-" else "e+") ++
    String.ofList (if digits.length < 2 then '0' :: digits else digits)

/-- Digits with the point after the first `point` of them. -/
def positional (digits : List Char) (point : Int) : List Char :=
  if point ≤ 0 then '0' :: '.' :: List.replicate (-point).toNat '0' ++ digits
  else if digits.length ≤ point.toNat then
    digits ++ List.replicate (point.toNat - digits.length) '0' ++ ['.', '0']
  else digits.take point.toNat ++ '.' :: digits.drop point.toNat

def scientific (digits : List Char) (point : Int) : String :=
  match digits with
  | [] => ""
  | [d] => String.singleton d ++ exponentText (point - 1)
  | d :: rest => String.ofList (d :: '.' :: rest) ++ exponentText (point - 1)

/-- The shortest text that reads back: positional from `0.0001` to below `10 ^ 16`. -/
def text (x : Binary64) : String :=
  match x.view with
  | .nan => "nan"
  | .infinite s => if s then "-inf" else "inf"
  | .finite s 0 _ => if s then "-0.0" else "0.0"
  | .finite s m e =>
    let d := Decimal.shortest m e
    let all := decimalDigits d.digits
    let point := d.exponent + all.length
    let digits := (all.reverse.dropWhile (· == '0')).reverse
    let body := if -4 < point && point ≤ 16 then String.ofList (positional digits point)
      else scientific digits point
    if s then "-" ++ body else body

end Binary64

end LineJoin
