import LineJoin.Json.Fault
import LineJoin.Value.Basic

/-!
# Reading JSON

`Json.read` reads one JSON value and refuses anything after it. Besides standard JSON the numbers
`NaN`, `Infinity` and `-Infinity` are read. A name that occurs twice in an object keeps its first
place and its last value. Escapes may give halves of pairs that stand alone, which no text can hold; so
a string is read as its code points, and `readWith` does so for any way of making a value of these.
-/

namespace LineJoin.Json

/-- The rest of a text and the position of its first character. -/
structure Input where
  rest : List Char
  position : Nat

def fail {α : Type} (problem : Problem) (position : Nat) : Except Fault α :=
  .error (.syntaxFault problem position)

def isSpace (c : Char) : Bool := c == ' ' || c == '\t' || c == '\n' || c == '\r'

namespace Input

def drop (i : Input) (n : Nat) : Input := ⟨i.rest.drop n, i.position + n⟩

def skipSpace (i : Input) : Input := i.drop (i.rest.takeWhile isSpace).length

/-- What follows a given text, if the input starts with it. -/
def after? (i : Input) (text : String) : Option Input :=
  if text.toList.isPrefixOf i.rest then some (i.drop text.length) else none

end Input

def simpleEscape? : Char → Option Char
  | '"' => some '"'
  | '\\' => some '\\'
  | '/' => some '/'
  | 'b' => some '\x08'
  | 'f' => some '\x0c'
  | 'n' => some '\n'
  | 'r' => some '\r'
  | 't' => some '\t'
  | _ => none

def isHighHalf (n : Nat) : Bool := 0xD800 ≤ n && n < 0xDC00

def isLowHalf (n : Nat) : Bool := 0xDC00 ≤ n && n < 0xE000

def hexUnit? (digits : List Char) : Option Nat :=
  if digits.length = 4 && digits.all (Span.hexValue? · |>.isSome) then some (Span.hexNumber digits)
  else none

/-- The code point of an escape with four digits, or of two such escapes that make a pair. The input
starts after the letter `u`, and a character has to follow the digits. -/
def readUnicode (i : Input) : Except Fault (Nat × Input) := do
  if (i.rest.drop 4).isEmpty then fail .badUnicodeEscape (i.position - 1)
  else match hexUnit? (i.rest.take 4) with
    | none => fail .badUnicodeEscape (i.position - 1)
    | some high =>
      let next := i.drop 4
      if isHighHalf high && !(next.rest.drop 6).isEmpty then
        match next.after? "\\u" with
        | none => return (high, next)
        | some pair =>
          match hexUnit? (pair.rest.take 4) with
          | none => fail .badUnicodeEscape (pair.position - 1)
          | some low =>
            if isLowHalf low then
              return (0x10000 + (high - 0xD800) * 0x400 + (low - 0xDC00), pair.drop 4)
            else return (high, next)
      else return (high, next)

/-- The code points of a string up to its closing quote. `start` is where the opening one stands. -/
def readString (start : Nat) : Nat → Input → Except Fault (List Nat × Input)
  | 0, _ => fail .unterminatedString start
  | fuel + 1, i =>
    match i.rest with
    | [] => fail .unterminatedString start
    | '"' :: _ => .ok ([], i.drop 1)
    | ['\\'] => fail .unterminatedString start
    | '\\' :: 'u' :: _ => do
      let (code, next) ← readUnicode (i.drop 2)
      let (codes, last) ← readString start fuel next
      return (code :: codes, last)
    | '\\' :: e :: _ =>
      match simpleEscape? e with
      | none => fail .badEscape i.position
      | some c => do
        let (codes, last) ← readString start fuel (i.drop 2)
        return (c.toNat :: codes, last)
    | c :: _ =>
      if c.toNat < 32 then fail .controlCharacter i.position
      else do
        let (codes, last) ← readString start fuel (i.drop 1)
        return (c.toNat :: codes, last)

/-- The written parts of a number. -/
structure Numeral where
  negative : Bool
  whole : List Char
  fraction : Option (List Char)
  exponent : Option (Bool × List Char)
  length : Nat

def readFraction : List Char → Option (List Char)
  | '.' :: d :: rest => if isDigit d then some ((d :: rest).takeWhile isDigit) else none
  | _ => none

/-- The sign and digits of an exponent, and how many characters they take. -/
def readExponent : List Char → Option (Bool × List Char × Nat)
  | e :: rest =>
    if e = 'e' || e = 'E' then
      let (negative, digits, length) := match rest with
        | '+' :: r => (false, r.takeWhile isDigit, 2)
        | '-' :: r => (true, r.takeWhile isDigit, 2)
        | r => (false, r.takeWhile isDigit, 1)
      if digits.isEmpty then none else some (negative, digits, length + digits.length)
    else none
  | [] => none

def readNumeral? (cs : List Char) : Option Numeral :=
  let (negative, signLength, body) := match cs with
    | '-' :: rest => (true, 1, rest)
    | rest => (false, 0, rest)
  let whole := match body with
    | '0' :: _ => ['0']
    | _ => body.takeWhile isDigit
  if whole.isEmpty then none
  else
    let afterWhole := body.drop whole.length
    let fraction := readFraction afterWhole
    let fractionLength := match fraction with
      | some ds => ds.length + 1
      | none => 0
    let exponent := readExponent (afterWhole.drop fractionLength)
    let exponentLength := match exponent with
      | some (_, _, n) => n
      | none => 0
    some {
      negative, whole, fraction
      exponent := exponent.map fun (s, ds, _) => (s, ds)
      length := signLength + whole.length + fractionLength + exponentLength }

/-- A numeral without fraction and exponent is an integer, any other the nearest double. -/
def Numeral.value (n : Numeral) : Except Fault Value :=
  match n.fraction, n.exponent with
  | none, none =>
    if digitLimit < n.whole.length then .error (.tooManyDigits n.whole.length)
    else
      let m : Int := digitsValue n.whole
      .ok (.int (if n.negative then -m else m))
  | fraction, exponent =>
    let places := fraction.getD []
    let power : Int := match exponent with
      | some (true, ds) => -(digitsValue ds : Int)
      | some (false, ds) => digitsValue ds
      | none => 0
    .ok (.float (.ofDecimal n.negative ⟨digitsValue (n.whole ++ places), power - places.length⟩))

def constants : List (String × Value) :=
  [("null", .null), ("true", .bool true), ("false", .bool false), ("NaN", .float .nan),
    ("Infinity", .float (.infinity false)), ("-Infinity", .float (.infinity true))]

/-- A value that is no string, array or object. -/
def readScalar (i : Input) : Except Fault (Value × Input) :=
  match constants.find? fun c => (i.after? c.1).isSome with
  | some (text, v) => .ok (v, i.drop text.length)
  | none =>
    match readNumeral? i.rest with
    | some n => do return (← n.value, i.drop n.length)
    | none => fail .expectingValue i.position

section Values

variable (ofString : List Nat → Value)

mutual
def readValue : Nat → Input → Except Fault (Value × Input)
  | 0, i => fail .expectingValue i.position
  | fuel + 1, i =>
    match i.rest with
    | '"' :: _ => do
      let (codes, next) ← readString i.position fuel (i.drop 1)
      return (ofString codes, next)
    | '[' :: _ => do
      let first := (i.drop 1).skipSpace
      match first.rest with
      | ']' :: _ => return (.list [], first.drop 1)
      | _ =>
        let (items, next) ← readItems fuel first
        return (.list items, next)
    | '\x7b' :: _ => do
      let first := (i.drop 1).skipSpace
      match first.rest with
      | '\x7d' :: _ => return (.dict [], first.drop 1)
      | _ =>
        let (pairs, next) ← readMembers fuel first
        return (.dict (Entries.ofPairs pairs), next)
    | _ => readScalar i

/-- The items of an array and its closing bracket. -/
def readItems : Nat → Input → Except Fault (List Value × Input)
  | 0, i => fail .expectingValue i.position
  | fuel + 1, i => do
    let (v, next) ← readValue fuel i
    let next := next.skipSpace
    match next.rest with
    | ']' :: _ => return ([v], next.drop 1)
    | ',' :: _ =>
      let (vs, last) ← readItems fuel (next.drop 1).skipSpace
      return (v :: vs, last)
    | _ => fail .expectingComma next.position

/-- The members of an object and its closing brace. -/
def readMembers : Nat → Input → Except Fault (List (Value × Value) × Input)
  | 0, i => fail .expectingName i.position
  | fuel + 1, i =>
    match i.rest with
    | '"' :: _ => do
      let (name, next) ← readString i.position fuel (i.drop 1)
      let next := next.skipSpace
      match next.rest with
      | ':' :: _ =>
        let (v, next) ← readValue fuel (next.drop 1).skipSpace
        let next := next.skipSpace
        let member : Value × Value := (ofString name, v)
        match next.rest with
        | '\x7d' :: _ => return ([member], next.drop 1)
        | ',' :: _ =>
          let (members, last) ← readMembers fuel (next.drop 1).skipSpace
          return (member :: members, last)
        | _ => fail .expectingComma next.position
      | _ => fail .expectingColon next.position
    | _ => fail .expectingName i.position
end

/-- Reads a whole JSON text. No two steps go by without taking a character, which bounds the steps. -/
def readWith (text : List Char) : Except Fault Value :=
  match text with
  | '\uFEFF' :: _ => fail .byteOrderMark 0
  | _ => do
    let (v, next) ← readValue ofString (2 * text.length + 2) (Input.skipSpace ⟨text, 0⟩)
    let next := next.skipSpace
    if next.rest.isEmpty then return v else fail .extraData next.position

end Values

/-- The text with some code points. A half that stands alone is no character and gives the replacement
character. -/
def textOf (codes : List Nat) : String :=
  String.ofList (codes.map fun n => if isHalf n then '\uFFFD' else Char.ofNat n)

/-- The value of a string as far as it is a text. -/
def plain (codes : List Nat) : Value := .str (textOf codes)

def read (text : List Char) : Except Fault Value := readWith plain text

/-! ## Halves of pairs -/

/-- The value of a string that tells whether halves stand alone in it: then it is no text. -/
def marked (codes : List Nat) : Value :=
  if codes.any isHalf then .bytes [] else plain codes

mutual
/-- Whether there is something in a value that is marked. -/
def holdsMark : Value → Bool
  | .bytes _ => true
  | .list items => itemsHoldMark items
  | .dict entries => entriesHoldMark entries
  | _ => false

def itemsHoldMark : List Value → Bool
  | [] => false
  | v :: rest => holdsMark v || itemsHoldMark rest

def entriesHoldMark : Entries → Bool
  | [] => false
  | (key, v) :: rest => holdsMark key || holdsMark v || entriesHoldMark rest
end

/-- Whether a JSON text has a string in which halves stand alone, where a later member of the same name
does not replace it. -/
def holdsHalf (text : List Char) : Bool :=
  match readWith marked text with
  | .ok v => holdsMark v
  | .error _ => false

end LineJoin.Json
