import LineJoin.Encoding.Basic
import LineJoin.Encoding.Japanese
import LineJoin.Encoding.Korean
import LineJoin.Encoding.Simplified
import LineJoin.Encoding.Traditional

/-!
# East Asian encodings

Encodings in which seven bit characters take one byte and all others two or more. A character that
is cut off by the end of the data is incomplete; all other bytes without a character are illegal,
and the fault is at the first of them.
-/

namespace LineJoin.Encoding

def illegal : Step := .bad 1 "illegal multibyte sequence"

def incomplete (data : Bytes) : Step := .bad data.length "incomplete multibyte sequence"

/-- A character set in rows of one width. -/
structure Plane where
  firstRow : Nat
  width : Nat
  chars : Array Char

namespace Plane

def ofLines (firstRow width : Nat) (lines : List String) : Plane :=
  ⟨firstRow, width, ⟨lines.flatMap String.toList⟩⟩

def char? (p : Plane) (row column : Nat) : Option Char :=
  if row < p.firstRow || p.width ≤ column then none
  else match p.chars[(row - p.firstRow) * p.width + column]? with
    | some '\uFFFD' => none
    | c => c

end Plane

def jisX0208Plane : Plane := .ofLines 0xA1 94 jisX0208

def jisX0212Plane : Plane := .ofLines 0xA2 94 jisX0212

def ksX1001Plane : Plane := .ofLines 0xA1 94 ksX1001

def gb2312Plane : Plane := .ofLines 0xA1 94 gb2312

def gb18030Plane : Plane := .ofLines 0x81 190 gb18030

def big5Plane : Plane := .ofLines 0xA1 157 big5

def charOrIllegal (c : Option Char) (length : Nat) : Step :=
  match c with
  | some c => .char c length
  | none => illegal

/-- The column of a trailing byte in a set of 94 columns. -/
def column94 (b : UInt8) : Nat := if b < 0xA1 then 94 else b.toNat - 0xA1

/-- The column of a trailing byte that may also be a seven bit one; the gap between both parts ends
before `upper`. -/
def columnFrom40 (upper : Nat) (b : UInt8) : Nat :=
  let n := b.toNat
  if 0x40 ≤ n && n ≤ 0x7E then n - 0x40
  else if upper ≤ n && n ≤ 0xFE then n - upper + 63
  else 256

/-- Seven bit characters stand for themselves; all others take two bytes at least. -/
def twoByteStep (pair : UInt8 → UInt8 → Bytes → Step) : Bytes → Step
  | [] => .bad 0 ""
  | [a] => if a < 0x80 then .char (byteChar a) 1 else incomplete [a]
  | a :: b :: rest => if a < 0x80 then .char (byteChar a) 1 else pair a b rest

namespace Gb2312

def decode : Decoder := stepwise "gb2312" (twoByteStep fun a b _ =>
  charOrIllegal (gb2312Plane.char? a.toNat (column94 b)) 2) 0

end Gb2312

namespace Big5

def decode : Decoder := stepwise "big5" (twoByteStep fun a b _ =>
  charOrIllegal (big5Plane.char? a.toNat (columnFrom40 0xA1 b)) 2) 0

end Big5

namespace Gb18030

/-- The code points of the first plane that have no code of one or two bytes, in order. -/
def remaining : Array Nat :=
  let taken : Array Bool := gb18030Plane.chars.foldl (fun t c => t.setIfInBounds c.toNat true)
    (Array.replicate 0x10000 false)
  ((List.range 0x10000).filter fun c =>
    0x80 ≤ c && !(0xD800 ≤ c && c < 0xE000) && !(taken[c]?.getD false)).toArray

/-- The number of a code of four bytes. -/
def sequence (a b c d : UInt8) : Nat :=
  (((a.toNat - 0x81) * 10 + (b.toNat - 0x30)) * 126 + (c.toNat - 0x81)) * 10 + (d.toNat - 0x30)

/-- The number of the first code of the supplementary planes. -/
def supplementaryBase : Nat := 189000

def fourBytes (a b c d : UInt8) : Option Char :=
  if a < 0x81 || 0xFE < a || c < 0x81 || 0xFE < c || d < 0x30 || 0x39 < d then none
  else
    let n := sequence a b c d
    if n < supplementaryBase then remaining[n]?.map Char.ofNat
    else
      let code := n - supplementaryBase + 0x10000
      if code ≤ 0x10FFFF then some (Char.ofNat code) else none

def pair (a b : UInt8) (rest : Bytes) : Step :=
  if 0x30 ≤ b && b ≤ 0x39 then
    match rest with
    | c :: d :: _ => charOrIllegal (fourBytes a b c d) 4
    | _ => incomplete (a :: b :: rest)
  else charOrIllegal (gb18030Plane.char? a.toNat (columnFrom40 0x80 b)) 2

def decode : Decoder := stepwise "gb18030" (twoByteStep pair) 0

end Gb18030

namespace EucKr

/-- Leading consonants by column; the number is that of the syllable table. -/
def leading : List (Option Nat) :=
  [some 0, some 1, none, some 2, none, none, some 3, some 4, some 5, none, none, none, none, none,
    none, none, some 6, some 7, some 8, none, some 9, some 10, some 11, some 12, some 13, some 14,
    some 15, some 16, some 17, some 18]

/-- Trailing consonants by column. -/
def trailing : List (Option Nat) :=
  [some 1, some 2, some 3, some 4, some 5, some 6, some 7, none, some 8, some 9, some 10, some 11,
    some 12, some 13, some 14, some 15, some 16, some 17, none, some 18, some 19, some 20, some 21,
    some 22, none, some 23, some 24, some 25, some 26, some 27]

def filler : UInt8 := 0xD4

def leadingOf (b : UInt8) : Option Nat := if b < 0xA1 then none else (leading[b.toNat - 0xA1]?).join

def vowelOf (b : UInt8) : Option Nat :=
  if 0xBF ≤ b && b ≤ 0xD3 then some (b.toNat - 0xBF) else none

def trailingOf (b : UInt8) : Option Nat :=
  if b = filler then some 0 else if b < 0xA1 then none else (trailing[b.toNat - 0xA1]?).join

/-- A syllable spelled with its letters in eight bytes. -/
def spelled (rest : Bytes) : Option Char :=
  match rest with
  | [0xA4, l, 0xA4, v, 0xA4, t] => do
    let l ← leadingOf l
    let v ← vowelOf v
    let t ← trailingOf t
    return Char.ofNat (0xAC00 + l * 588 + v * 28 + t)
  | _ => none

def pair (a b : UInt8) (rest : Bytes) : Step :=
  if a = 0xA4 && b = filler then
    if rest.length < 6 then incomplete (a :: b :: rest)
    else charOrIllegal (spelled (rest.take 6)) 8
  else charOrIllegal (ksX1001Plane.char? a.toNat (column94 b)) 2

def decode : Decoder := stepwise "euc_kr" (twoByteStep pair) 0

end EucKr

namespace EucJp

def pair (a b : UInt8) (rest : Bytes) : Step :=
  if a = 0x8E then
    if 0xA1 ≤ b && b ≤ 0xDF then .char (Char.ofNat (0xFEC0 + b.toNat)) 2 else illegal
  else if a = 0x8F then
    match rest with
    | [] => incomplete [a, b]
    | c :: _ => charOrIllegal (jisX0212Plane.char? b.toNat (column94 c)) 3
  else charOrIllegal (jisX0208Plane.char? a.toNat (column94 b)) 2

def decode : Decoder := stepwise "euc_jp" (twoByteStep pair) 0

end EucJp

namespace ShiftJis

/-- The row of the first byte and the column of the second one: two rows share a first byte. -/
def char? (a b : Nat) : Option Char :=
  if b < 0x40 || b = 0x7F || 0xFC < b then none
  else
    let half := if a < 0xE0 then a - 0x81 else a - 0xC1
    let column := if b < 0x80 then b - 0x40 else b - 0x41
    if column < 94 then jisX0208Plane.char? (2 * half + 0xA1) column
    else jisX0208Plane.char? (2 * half + 0xA2) (column - 94)

def isLead (a : UInt8) : Bool := (0x81 ≤ a && a ≤ 0x9F) || (0xE0 ≤ a && a ≤ 0xEA)

def step : Bytes → Step
  | [] => .bad 0 ""
  | a :: rest =>
    if a < 0x80 then .char (byteChar a) 1
    else if 0xA1 ≤ a && a ≤ 0xDF then .char (Char.ofNat (0xFEC0 + a.toNat)) 1
    else if isLead a then
      match rest with
      | [] => incomplete [a]
      | b :: _ => charOrIllegal (char? a.toNat b.toNat) 2
    else illegal

def decode : Decoder := stepwise "shift_jis" step 0

end ShiftJis

end LineJoin.Encoding
