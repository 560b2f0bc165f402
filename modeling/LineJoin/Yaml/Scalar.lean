import LineJoin.Chars.Digit
import LineJoin.Text.Blank
import LineJoin.Text.Small
import LineJoin.Value.Basic
import LineJoin.Yaml.Base64
import LineJoin.Yaml.Node.Basic

/-!
# Values of scalars

What the text of a scalar stands for under each tag. Numbers may have underscores between their
digits, which may be those of any script, and parts in base sixty between colons.
-/

namespace LineJoin.Yaml.Scalar

def splitSign : List Char → Bool × List Char
  | '-' :: rest => (true, rest)
  | '+' :: rest => (false, rest)
  | cs => (false, cs)

def withoutUnderscores (cs : List Char) : List Char := cs.filter (· != '_')

def isNumberBlank (c : Char) : Bool := isBlank c && !('\x1c' ≤ c && c ≤ '\x1f')

/-- A part of a number without blanks around it. -/
def withoutBlanks (cs : List Char) : List Char := (trim isNumberBlank cs).map plainDigit

/-! ## Integers -/

def baseLetter? : Nat → Option Char
  | 2 => some 'b'
  | 8 => some 'o'
  | 16 => some 'x'
  | _ => none

/-- Takes off a zero and the letter of a base. -/
def dropBase (base : Nat) : List Char → List Char
  | '0' :: c :: rest =>
    if baseLetter? base = some c.toLower then rest else '0' :: c :: rest
  | cs => cs

def isDigitIn (base : Nat) (c : Char) : Bool :=
  match Span.hexValue? c with
  | some d => d < base
  | none => false

/-- The number that digits write in a base. -/
def valueIn (base : Nat) (digits : List Char) : Nat :=
  digits.foldl (fun n c => n * base + (Span.hexValue? c).getD 0) 0

/-- An integer with an optional sign, between blanks. -/
def integerIn (base : Nat) (cs : List Char) : Except Misfit Int :=
  let (negative, body) := splitSign (withoutBlanks cs)
  let digits := dropBase base body
  if digits.isEmpty || !digits.all (isDigitIn base) then
    .error (.integer base (String.ofList cs))
  else if base = 10 && digitLimit < digits.length then .error (.tooManyDigits digits.length)
  else
    let n : Int := valueIn base digits
    .ok (if negative then -n else n)

/-- An integer without its sign, in the base that its beginning tells. -/
def magnitude : List Char → Except Misfit Int
  | [] => .error .noNumber
  | ['0'] => .ok 0
  | '0' :: 'b' :: digits => integerIn 2 digits
  | '0' :: 'x' :: digits => integerIn 16 digits
  | '0' :: digits => integerIn 8 ('0' :: digits)
  | cs => do
    let parts ← (cutAt ':' cs).mapM (integerIn 10)
    return parts.foldl (fun n part => n * 60 + part) 0

def integer (text : List Char) : Except Misfit Int :=
  match withoutUnderscores text with
  | [] => .error .noNumber
  | cs => do
    let (negative, body) := splitSign cs
    let n ← magnitude body
    return if negative then -n else n

/-! ## Floating point numbers -/

def lower (cs : List Char) : List Char := cs.flatMap smallsOf

/-- An exponent, or zero where the text ends. -/
def exponent? : List Char → Option Int
  | [] => some 0
  | e :: rest =>
    let (negative, digits) := splitSign rest
    if e = 'e' && !digits.isEmpty && digits.all isDigit then
      some (if negative then -(digitsValue digits : Int) else digitsValue digits)
    else none

/-- A decimal number or the name of a special one, in small letters. -/
def decimalFloat? (cs : List Char) : Option Binary64 := do
  let (negative, body) := splitSign cs
  let word := String.ofList body
  if word = "inf" || word = "infinity" then return .infinity negative
  if word = "nan" then return .nan
  let whole := body.takeWhile isDigit
  let rest := body.dropWhile isDigit
  let (fraction, rest) := match rest with
    | '.' :: more => (more.takeWhile isDigit, more.dropWhile isDigit)
    | rest => ([], rest)
  if whole.isEmpty && fraction.isEmpty then none
  let e ← exponent? rest
  return .ofDecimal negative ⟨digitsValue (whole ++ fraction), e - fraction.length⟩

def decimalFloat (cs : List Char) : Except Misfit Binary64 :=
  match decimalFloat? (withoutBlanks cs) with
  | some x => .ok x
  | none => .error (.float (String.ofList cs))

/-- With more parts than this, the first one counts a power of sixty that is no floating point
number. -/
def mostSixties : Nat := 174

/-- Adds up parts in base sixty from the last one on. -/
def sixties (parts : List Binary64) : Except Misfit Binary64 :=
  if mostSixties < parts.length then .error .tooLarge
  else .ok (parts.reverse.foldl (fun (total, base) part =>
    (Binary64.add total (Binary64.mul part (.ofInt base)), base * 60)) (.zero, (1 : Int))).1

def float (text : List Char) : Except Misfit Binary64 :=
  match lower (withoutUnderscores text) with
  | [] => .error .noNumber
  | cs => do
    let (negative, body) := splitSign cs
    match String.ofList body with
    | ".inf" => return .infinity negative
    | ".nan" => return .nan
    | _ =>
      let x ← match cutAt ':' body with
        | [one] => decimalFloat one
        | parts => do sixties (← parts.mapM decimalFloat)
      return if negative then x.neg else x

/-! ## Other scalars -/

def truth (text : List Char) : Except Misfit Bool :=
  let word := String.ofList (lower text)
  match Tag.boolWords.lookup word with
  | some b => .ok b
  | none => .error (.truth word)

/-- One line feed at the end makes no difference. -/
def timestampParts? (text : List Char) : Option TimestampParts :=
  TimestampParts.read? text <|>
    if text.getLast? = some '\n' then TimestampParts.read? text.dropLast else none

def valid (problem : Option String) : Except Misfit Unit :=
  match problem with
  | some p => .error (.calendar p)
  | none => .ok ()

def timestamp (text : List Char) : Except Misfit Value :=
  match timestampParts? text with
  | none => .error .timestamp
  | some ⟨day, none⟩ => do
    valid day.invalid?
    return .day day
  | some ⟨day, some time⟩ => do
    match time.offset with
    | some n => if 1440 ≤ n.natAbs then throw (.offset n)
    | none => pure ()
    let moment : Moment := ⟨day, time.hour, time.minute, time.second,
      TimestampParts.micros time.fraction, time.offset⟩
    valid moment.invalid?
    return .moment moment

/-- What is wrong with a text that is not ASCII: its first run of other characters. -/
def asciiFault? (text : List Char) : Option String :=
  let isAscii (c : Char) : Bool := c.toNat < 128
  let position := (text.takeWhile isAscii).length
  match text.dropWhile isAscii with
  | [] => none
  | c :: rest =>
    let more := (rest.takeWhile fun c => !isAscii c).length
    let place :=
      if more = 0 then
        "character '" ++ String.ofList (Quoted.escapeControl c) ++ "' in position " ++
          natText position
      else "characters in position " ++ natText position ++ "-" ++ natText (position + more)
    some ("'ascii' codec can't encode " ++ place ++ ": ordinal not in range(128)")

def binary (text : List Char) (mark : Mark) : Except Fault Value :=
  match asciiFault? text with
  | some message => .error (.found (.notAscii message) mark)
  | none =>
    match Base64.decode text with
    | .ok data => .ok (.bytes data)
    | .error f => .error (.found (.badBase64 f.message) mark)

/-- The value of a text under a tag; none if the tag is not one of scalars. -/
def value? (tag : Tag) (mark : Mark) (text : List Char) : Option (Except Fault Value) :=
  let fit {α : Type} (x : Except Misfit α) (f : α → Value) : Option (Except Fault Value) :=
    some ((x.mapError .misfit).map f)
  match tag with
  | .null => some (.ok .null)
  | .bool => fit (truth text) .bool
  | .int => fit (integer text) .int
  | .float => fit (float text) .float
  | .str => some (.ok (.str (String.ofList text)))
  | .binary => some (binary text mark)
  | .timestamp => fit (timestamp text) id
  | _ => none

end LineJoin.Yaml.Scalar
