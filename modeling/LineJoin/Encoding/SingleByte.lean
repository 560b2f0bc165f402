import LineJoin.Encoding.Basic

/-!
# Single byte encodings

Encodings with one byte for each character.
-/

namespace LineJoin.Encoding

namespace Ascii

def step : Bytes → Step
  | [] => .bad 0 ""
  | b :: _ => if b < 0x80 then .char (byteChar b) 1 else .bad 1 "ordinal not in range(128)"

def decode : Decoder := stepwise "ascii" step 0

end Ascii

namespace Latin1

def decode : Decoder := fun data => .ok (data.map byteChar)

end Latin1

namespace Windows1252

/-- The characters from byte `80` to `9F`; zero stands where there is none. -/
def upper : List Nat :=
  [0x20AC, 0, 0x201A, 0x0192, 0x201E, 0x2026, 0x2020, 0x2021, 0x02C6, 0x2030, 0x0160, 0x2039,
    0x0152, 0, 0x017D, 0, 0, 0x2018, 0x2019, 0x201C, 0x201D, 0x2022, 0x2013, 0x2014, 0x02DC,
    0x2122, 0x0161, 0x203A, 0x0153, 0, 0x017E, 0x0178]

def step : Bytes → Step
  | [] => .bad 0 ""
  | b :: _ =>
    if b < 0x80 || 0xA0 ≤ b then .char (byteChar b) 1
    else match upper[b.toNat - 0x80]? with
      | none | some 0 => .bad 1 "character maps to <undefined>"
      | some c => .char (Char.ofNat c) 1

def decode : Decoder := stepwise "charmap" step 0

end Windows1252

end LineJoin.Encoding
