import LineJoin.Text.Printable

/-!
# Quoted texts

Messages show a text between single quotes, or between double quotes if it holds single quotes
only. Inside, the quote in use and the backslash are escaped, and so is what cannot be printed.
-/

namespace LineJoin

def hexDigits (width n : Nat) : List Char :=
  let digits := Nat.toDigits 16 n
  List.replicate (width - digits.length) '0' ++ digits

namespace Quoted

def chooseQuote (cs : List Char) : Char :=
  if cs.contains '\'' && !cs.contains '"' then '"' else '\''

def escapeControl (c : Char) : List Char :=
  let n := c.toNat
  if n < 0x100 then '\\' :: 'x' :: hexDigits 2 n
  else if n < 0x10000 then '\\' :: 'u' :: hexDigits 4 n
  else '\\' :: 'U' :: hexDigits 8 n

def escape (quote c : Char) : List Char :=
  if c = quote || c = '\\' then ['\\', c]
  else if c = '\n' then ['\\', 'n']
  else if c = '\r' then ['\\', 'r']
  else if c = '\t' then ['\\', 't']
  else if isPrintable c then [c]
  else escapeControl c

end Quoted

/-- A text between quotes. -/
def quoted (s : String) : String :=
  let quote := Quoted.chooseQuote s.toList
  String.ofList (quote :: s.toList.flatMap (Quoted.escape quote) ++ [quote])

def byteChar (b : UInt8) : Char := Char.ofNat b.toNat

/-- Bytes between quotes after a `b`; bytes above the printable seven-bit ones are escaped. -/
def quotedBytes (bytes : List UInt8) : String :=
  let cs := bytes.map byteChar
  let quote := Quoted.chooseQuote cs
  let show1 (c : Char) : List Char :=
    if 127 ≤ c.toNat then Quoted.escapeControl c else Quoted.escape quote c
  String.ofList ('b' :: quote :: cs.flatMap show1 ++ [quote])

end LineJoin
