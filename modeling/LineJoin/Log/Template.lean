import LineJoin.Chars.Digit
import LineJoin.Chars.Property
import LineJoin.Log
import LineJoin.Number.Decimal
import LineJoin.Text.Quoted

/-!
# Templates for log lines

A template is a text with fields such as `%(message)s`, each of which may have a width, a precision
and flags. A template without any field is refused. `Template.render?` shows a record; a record is
left out where a field is unknown. A record knows its message and its level; what else it is made
with, such as the time or the process, is given by its `Surroundings`.
-/

namespace LineJoin

/-- A part of a record that a field shows. -/
inductive RecordPart where
  | message
  | channel
  | levelName
  | levelNumber
  | time
  | surrounding (name : String)
deriving DecidableEq, Repr

/-- What a record holds that comes from where and when it was made. -/
def RecordPart.surroundingNames : List String :=
  ["args", "pathname", "filename", "module", "exc_info", "exc_text", "stack_info", "lineno",
    "funcName", "created", "msecs", "relativeCreated", "thread", "threadName", "process",
    "processName"]

def RecordPart.named? (name : String) : Option RecordPart :=
  match name with
  | "message" | "msg" => some message
  | "name" => some channel
  | "levelname" => some levelName
  | "levelno" => some levelNumber
  | "asctime" => some time
  | _ => if surroundingNames.contains name then some (.surrounding name) else none

inductive PartValue where
  | text (s : String)
  | number (n : Nat)

/-- How the value of a field is laid out. -/
structure FieldLayout where
  flags : List Char
  width : Nat
  precision : Option Nat
  conversion : Char
deriving DecidableEq, Repr

namespace FieldLayout

def has (l : FieldLayout) (flag : Char) : Bool := l.flags.contains flag

/-- Fills up to the width. -/
def fill (l : FieldLayout) (cs : List Char) : List Char :=
  let blanks := List.replicate (l.width - cs.length) ' '
  if l.has '-' then cs ++ blanks else blanks ++ cs

def textOf (l : FieldLayout) (cs : List Char) : List Char :=
  l.fill (match l.precision with
    | some n => cs.take n
    | none => cs)

def zeros (width : Nat) (cs : List Char) : List Char :=
  List.replicate (width - cs.length) '0' ++ cs

/-- A number with the given digits. Zeros stand between what is before the digits and these. -/
def numberOf (l : FieldLayout) (base digits : List Char) : List Char :=
  let sign := if l.has '+' then ['+'] else if l.has ' ' then [' '] else []
  let lead := sign ++ if l.has '#' then base else []
  let digits := zeros (l.precision.getD 0) digits
  if l.has '0' && !l.has '-' then lead ++ zeros (l.width - lead.length) digits
  else l.fill (lead ++ digits)

/-- An escape for a character that is not ASCII. -/
def asciiForm (c : Char) : List Char := if c.toNat < 0x80 then [c] else Quoted.escapeControl c

def show? (l : FieldLayout) (v : PartValue) : Option (List Char) :=
  match l.conversion, v with
  | 's', .text s => some (l.textOf s.toList)
  | 's', .number n | 'r', .number n | 'a', .number n => some (l.textOf (decimalDigits n))
  | 'r', .text s => some (l.textOf (quoted s).toList)
  | 'a', .text s => some (l.textOf ((quoted s).toList.flatMap asciiForm))
  | 'c', .text s => if s.length = 1 then some (l.fill s.toList) else none
  | 'c', .number n => some (l.fill [Char.ofNat n])
  | 'd', .number n | 'i', .number n | 'u', .number n => some (l.numberOf [] (decimalDigits n))
  | 'x', .number n => some (l.numberOf ['0', 'x'] (Nat.toDigits 16 n))
  | 'X', .number n => some (l.numberOf ['0', 'X'] ((Nat.toDigits 16 n).map Char.toUpper))
  | 'o', .number n => some (l.numberOf ['0', 'o'] (Nat.toDigits 8 n))
  | _, _ => none

end FieldLayout

/-- What a record is shown with besides what it says itself. -/
structure Surroundings where
  /-- The time that log lines show. -/
  clock : String := ""
  /-- What is shown below a record that tells of an error. -/
  trace : String := ""
  /-- How a field for something else is shown, if it can be. -/
  field : Record → String → FieldLayout → Option (List Char) := fun _ name layout =>
    match name with
    | "processName" => layout.show? (.text "MainProcess")
    | "threadName" => layout.show? (.text "MainThread")
    | _ => layout.show? (.text "")

def RecordPart.show? (s : Surroundings) (r : Record) (layout : FieldLayout) :
    RecordPart → Option (List Char)
  | message => layout.show? (.text r.message)
  | channel => layout.show? (.text r.channel.name)
  | levelName => layout.show? (.text r.level.name)
  | levelNumber => layout.show? (.number r.level.number)
  | time => layout.show? (.text s.clock)
  | surrounding name => s.field r name layout

inductive Template.Piece where
  | text (cs : List Char)
  | field (part : RecordPart) (layout : FieldLayout)
  /-- A field that cannot be shown. -/
  | unknown
deriving DecidableEq, Repr

structure Template where
  pieces : List Template.Piece
deriving Repr

namespace Template

def isFlag (c : Char) : Bool := ['#', '0', '+', ' ', '-'].contains c

/-- Letters and numbers of all kinds. -/
def wordCategories : List Category :=
  Property.letters ++ [.decimalNumber, .letterNumber, .otherNumber]

/-- Characters that the name of a field may hold. ASCII needs no table. -/
def isWordChar (c : Char) : Bool :=
  if c.toNat < 0x80 then c.isAlphanum || c == '_' else wordCategories.any (·.holds c.toNat)

/-! ## Refusing texts without a field -/

/-- Digits of any script. -/
def isAnyDigit (c : Char) : Bool := if c.toNat < 0x80 then isDigit c else isDecimalDigit c

/-- What follows a width or a precision: digits, or an asterisk. -/
def dropNumber (cs : List Char) : List Char :=
  match cs with
  | '*' :: rest => rest
  | cs => cs.dropWhile isAnyDigit

/-- The letter at the end of a field, in either case. Besides the ASCII letters there are three that
are the same as one of them when case is ignored. -/
def isConversion (c : Char) : Bool :=
  "diouxefgcrsa%".toList.contains c.toLower || ['\u0130', '\u0131', '\u017F'].contains c

/-- Whether a field begins here. -/
def beginsField : List Char → Bool
  | '%' :: '(' :: rest =>
    match rest.takeWhile isWordChar, rest.dropWhile isWordChar with
    | _ :: _, ')' :: rest =>
      let rest := dropNumber (rest.dropWhile isFlag)
      let rest := match rest with
        | '.' :: more =>
          let after := dropNumber more
          if after.length < more.length then after else rest
        | rest => rest
      rest.head?.any isConversion
    | _, _ => false
  | _ => false

def hasField : List Char → Bool
  | [] => false
  | c :: rest => beginsField (c :: rest) || hasField rest

/-! ## Reading -/

def readNumber (cs : List Char) : Nat × List Char :=
  (digitsValue (cs.takeWhile isDigit), cs.dropWhile isDigit)

def readPrecision : List Char → Option Nat × List Char
  | '.' :: rest =>
    let (n, rest) := readNumber rest
    (some n, rest)
  | rest => (none, rest)

/-- A field after its percent sign. -/
def readField (cs : List Char) : Piece × List Char :=
  match cs with
  | '%' :: rest => (.text ['%'], rest)
  | '(' :: rest =>
    let part := RecordPart.named? (String.ofList (rest.takeWhile (· != ')')))
    let rest := (rest.dropWhile (· != ')')).drop 1
    let flags := rest.takeWhile isFlag
    let (width, rest) := readNumber (rest.dropWhile isFlag)
    let (precision, rest) := readPrecision rest
    let rest := if rest.head?.any fun c => ['h', 'l', 'L'].contains c then rest.drop 1 else rest
    match part, rest with
    | some part, c :: rest => (.field part ⟨flags, width, precision, c⟩, rest)
    | _, rest => (.unknown, rest.drop 1)
  | rest => (.unknown, rest.drop 1)

def readPieces : Nat → List Char → List Piece
  | 0, _ => []
  | _, [] => []
  | fuel + 1, '%' :: rest =>
    let (piece, rest) := readField rest
    piece :: readPieces fuel rest
  | fuel + 1, c :: rest => .text [c] :: readPieces fuel rest

/-- The template for lines that hold the message only. -/
def bare : Template := ⟨[.field .message ⟨[], 0, none, 's'⟩]⟩

/-- The template of a text. The empty text stands for the message only. -/
def ofText? (s : String) : Option Template :=
  let cs := s.toList
  if cs.isEmpty then some bare
  else if hasField cs then some ⟨readPieces cs.length cs⟩
  else none

/-! ## Showing records -/

def Piece.show? (s : Surroundings) (r : Record) : Piece → Option (List Char)
  | .text cs => some cs
  | .field part layout => part.show? s r layout
  | .unknown => none

/-- A record as a text without the line feed at its end. -/
def render? (t : Template) (s : Surroundings) (r : Record) : Option (List Char) := do
  let cs := (← t.pieces.mapM fun p => p.show? s r).flatten
  if r.withTrace then
    return cs ++ (if cs.getLast? = some '\n' then [] else ['\n']) ++ s.trace.toList
  return cs

end Template

end LineJoin
