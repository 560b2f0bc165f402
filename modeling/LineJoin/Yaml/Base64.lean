import LineJoin.Number.Decimal

/-!
# Base 64

Bytes are written in groups of four characters of six bits each, in lines of 76 characters; reading
passes over everything that is no character of the code.
-/

namespace LineJoin.Base64

def alphabet : List Char :=
  "ABCDEFGHIJKLMNOPQRSTUVWXYZabcdefghijklmnopqrstuvwxyz0123456789+/".toList

def charOf (sextet : Nat) : Char := alphabet.getD sextet '='

def sextetOf? (c : Char) : Option Nat :=
  let i := alphabet.idxOf c
  if i < 64 then some i else none

/-! ## Writing -/

/-- The characters of three, two or one bytes. -/
def group : List UInt8 → List Char
  | [a] =>
    let n := a.toNat * 16
    [charOf (n / 64), charOf (n % 64), '=', '=']
  | [a, b] =>
    let n := (a.toNat * 256 + b.toNat) * 4
    [charOf (n / 4096), charOf (n / 64 % 64), charOf (n % 64), '=']
  | [a, b, c] =>
    let n := (a.toNat * 256 + b.toNat) * 256 + c.toNat
    [charOf (n / 262144), charOf (n / 4096 % 64), charOf (n / 64 % 64), charOf (n % 64)]
  | _ => []

def groups : List UInt8 → List Char
  | a :: b :: c :: rest => group [a, b, c] ++ groups rest
  | rest => group rest

/-- How many bytes make a line. -/
def lineBytes : Nat := 57

def encodeLines : Nat → List UInt8 → List Char
  | 0, _ => []
  | _, [] => []
  | fuel + 1, data => groups (data.take lineBytes) ++ '\n' :: encodeLines fuel (data.drop lineBytes)

/-- The lines of some bytes, each with a line feed. -/
def encode (data : List UInt8) : List Char := encodeLines data.length data

/-! ## Reading -/

inductive Fault where
  | incorrectPadding
  /-- One character too many, after so many bytes. -/
  | danglingCharacter (bytes : Nat)
deriving DecidableEq, Repr

def Fault.message : Fault → String
  | incorrectPadding => "Incorrect padding"
  | danglingCharacter bytes =>
    "Invalid base64-encoded string: number of data characters (" ++
      natText (bytes / 3 * 4 + 1) ++ ") cannot be 1 more than a multiple of 4"

/-- How far the bits of a group have been read: how many characters of it, the bits left over, and
how many padding signs have come. -/
structure State where
  place : Nat
  left : Nat
  pads : Nat
  bytes : Nat

/-- The byte that a character completes, if it does, and what is left of it. -/
def State.take (s : State) (sextet : Nat) : Option UInt8 × State :=
  match s.place with
  | 0 => (none, { s with place := 1, left := sextet, pads := 0 })
  | 1 => (some (UInt8.ofNat (s.left * 4 + sextet / 16)),
      { s with place := 2, left := sextet % 16, pads := 0, bytes := s.bytes + 1 })
  | 2 => (some (UInt8.ofNat (s.left * 16 + sextet / 4)),
      { s with place := 3, left := sextet % 4, pads := 0, bytes := s.bytes + 1 })
  | _ => (some (UInt8.ofNat (s.left * 64 + sextet)),
      { s with place := 0, left := 0, pads := 0, bytes := s.bytes + 1 })

def decodeFrom (s : State) : List Char → Except Fault (List UInt8)
  | [] =>
    if s.place = 0 then .ok []
    else if s.place = 1 then .error (.danglingCharacter s.bytes)
    else .error .incorrectPadding
  | c :: rest =>
    if c = '=' then
      if 2 ≤ s.place then
        if 4 ≤ s.place + (s.pads + 1) then .ok [] else decodeFrom { s with pads := s.pads + 1 } rest
      else decodeFrom s rest
    else match sextetOf? c with
      | none => decodeFrom s rest
      | some sextet =>
        match s.take sextet with
        | (some b, s) => do return b :: (← decodeFrom s rest)
        | (none, s) => decodeFrom s rest

def decode (cs : List Char) : Except Fault (List UInt8) := decodeFrom ⟨0, 0, 0, 0⟩ cs

end LineJoin.Base64
