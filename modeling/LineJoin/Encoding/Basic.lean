import LineJoin.Number.Decimal
import LineJoin.Text.Quoted

/-!
# Decoding bytes

A decoder turns bytes into characters or finds the first bytes that are no text of its encoding.
`Fault.message` names those bytes and what is wrong with them.
-/

namespace LineJoin.Encoding

abbrev Bytes := List UInt8

/-- Bytes from `start` to before `stop` that an encoding does not admit. -/
structure Fault where
  encoding : String
  start : Nat
  stop : Nat
  /-- The byte at the start. -/
  byte : UInt8
  reason : String
deriving DecidableEq, Repr

def Fault.message (f : Fault) : String :=
  let place :=
    if f.stop = f.start + 1 then
      "byte 0x" ++ String.ofList (hexDigits 2 f.byte.toNat) ++ " in position " ++ natText f.start
    else "bytes in position " ++ natText f.start ++ "-" ++ natText (f.stop - 1)
  "'" ++ f.encoding ++ "' codec can't decode " ++ place ++ ": " ++ f.reason

abbrev Decoder := Bytes → Except Fault (List Char)

/-- What one step of a decoder finds at the head of its input. -/
inductive Step where
  /-- A character, and how many bytes it takes. -/
  | char (c : Char) (length : Nat)
  | bad (length : Nat) (reason : String)

/-- Decodes step by step. Each step takes at least one byte, which bounds the fuel. -/
def decodeSteps (encoding : String) (step : Bytes → Step) :
    Nat → Nat → Bytes → Except Fault (List Char)
  | 0, _, _ => .ok []
  | _, _, [] => .ok []
  | fuel + 1, position, b :: rest =>
    match step (b :: rest) with
    | .char c length => do
      let cs ← decodeSteps encoding step fuel (position + length) ((b :: rest).drop length)
      return c :: cs
    | .bad length reason => .error ⟨encoding, position, position + length, b, reason⟩

/-- The decoder that takes bytes step by step from the given position on. -/
def stepwise (encoding : String) (step : Bytes → Step) (position : Nat) (data : Bytes) :
    Except Fault (List Char) :=
  decodeSteps encoding step (data.length + 1) position data

end LineJoin.Encoding
