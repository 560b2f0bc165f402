import LineJoin.Encoding.Basic

/-!
# Unicode encodings

UTF-8 admits only the shortest form of each character and no halves of pairs. UTF-16 comes in two
byte orders; a byte order mark at the start of the general form tells which.
-/

namespace LineJoin.Encoding

namespace Utf8

def isTrail (b : UInt8) : Bool := 0x80 ≤ b && b ≤ 0xBF

/-- The bytes that may follow a leading byte of a longer form. -/
def secondRange (lead : UInt8) : UInt8 × UInt8 :=
  if lead = 0xE0 then (0xA0, 0xBF)
  else if lead = 0xED then (0x80, 0x9F)
  else if lead = 0xF0 then (0x90, 0xBF)
  else if lead = 0xF4 then (0x80, 0x8F)
  else (0x80, 0xBF)

/-- How many bytes a character takes, by its leading byte. -/
def formLength? (lead : UInt8) : Option Nat :=
  if lead < 0x80 then some 1
  else if lead < 0xC2 then none
  else if lead < 0xE0 then some 2
  else if lead < 0xF0 then some 3
  else if lead < 0xF5 then some 4
  else none

/-- How many of the following bytes fit, given how many are wanted. -/
def fitting (lead : UInt8) (rest : Bytes) (wanted : Nat) : Nat :=
  match wanted, rest with
  | 0, _ => 0
  | _, [] => 0
  | wanted + 1, b :: more =>
    let (low, high) := secondRange lead
    if low ≤ b && b ≤ high then 1 + ((more.take wanted).takeWhile isTrail).length else 0

def payload (lead : UInt8) (length : Nat) : Nat :=
  if length = 1 then lead.toNat else lead.toNat % twoTo (7 - length)

def step : Bytes → Step
  | [] => .bad 0 ""
  | lead :: rest =>
    match formLength? lead with
    | none => .bad 1 "invalid start byte"
    | some length =>
      let found := fitting lead rest (length - 1)
      if found + 1 = length then
        let code := (rest.take found).foldl (fun n b => n * 64 + b.toNat % 64) (payload lead length)
        .char (Char.ofNat code) length
      else if rest.length = found then .bad (found + 1) "unexpected end of data"
      else .bad (found + 1) "invalid continuation byte"

def decode : Decoder := stepwise "utf-8" step 0

def mark : Bytes := [0xEF, 0xBB, 0xBF]

/-- A byte order mark at the start is dropped; positions count from after it. -/
def decodeMarked : Decoder := fun data =>
  decode (if mark.isPrefixOf data then data.drop 3 else data)

/-- The bytes of a character. -/
def encodeChar (c : Char) : Bytes :=
  let n := c.toNat
  if n < 0x80 then [UInt8.ofNat n]
  else if n < 0x800 then [UInt8.ofNat (0xC0 + n / 64), UInt8.ofNat (0x80 + n % 64)]
  else if n < 0x10000 then
    [UInt8.ofNat (0xE0 + n / 4096), UInt8.ofNat (0x80 + n / 64 % 64), UInt8.ofNat (0x80 + n % 64)]
  else
    [UInt8.ofNat (0xF0 + n / 262144), UInt8.ofNat (0x80 + n / 4096 % 64),
      UInt8.ofNat (0x80 + n / 64 % 64), UInt8.ofNat (0x80 + n % 64)]

def encode (cs : List Char) : Bytes := cs.flatMap encodeChar

end Utf8

namespace Utf16

def unit (bigEndian : Bool) (a b : UInt8) : Nat :=
  if bigEndian then a.toNat * 256 + b.toNat else b.toNat * 256 + a.toNat

def step (bigEndian : Bool) : Bytes → Step
  | a :: b :: rest =>
    let high := unit bigEndian a b
    if high < 0xD800 || 0xE000 ≤ high then .char (Char.ofNat high) 2
    else if 0xDC00 ≤ high then .bad 2 "illegal encoding"
    else match rest with
      | c :: d :: _ =>
        let low := unit bigEndian c d
        if 0xDC00 ≤ low && low < 0xE000 then
          .char (Char.ofNat (0x10000 + (high - 0xD800) * 0x400 + (low - 0xDC00))) 4
        else .bad 2 "illegal UTF-16 surrogate"
      | _ => .bad (2 + rest.length) "unexpected end of data"
  | data => .bad data.length "truncated data"

def name (bigEndian : Bool) : String := if bigEndian then "utf-16-be" else "utf-16-le"

def decodeFrom (bigEndian : Bool) (position : Nat) : Decoder :=
  stepwise (name bigEndian) (step bigEndian) position

def decodeOrdered (bigEndian : Bool) : Decoder := decodeFrom bigEndian 0

/-- The general form: the mark tells the byte order, which is little endian without one. -/
def decode : Decoder := fun data =>
  match data with
  | 0xFF :: 0xFE :: rest => decodeFrom false 2 rest
  | 0xFE :: 0xFF :: rest => decodeFrom true 2 rest
  | data => decodeFrom false 0 data

end Utf16

end LineJoin.Encoding
