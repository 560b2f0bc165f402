import LineJoin.Text.Quoted
import LineJoin.Yaml.Style

/-!
# Pages

A `Page` is the part of a YAML text that is written, with what matters for the next part: the column,
and whether the next sign needs a blank before it. Long scalars are folded where they go beyond the
width of a line.
-/

namespace LineJoin.Yaml

/-- The column after which a scalar is folded. -/
def width : Nat := 80

structure Page where
  text : String := ""
  column : Nat := 0
  /-- No blank is needed before the next sign. -/
  spaced : Bool := true
  /-- The line holds indentation and signs of items only. -/
  fresh : Bool := true
  /-- A plain scalar ends the document, after which a sign of the end is written. -/
  isOpen : Bool := false

namespace Page

def put (cs : List Char) (p : Page) : Page :=
  { p with text := p.text ++ String.ofList cs, column := p.column + cs.length }

/-- Ends the line with a line break of any kind. -/
def endLine (c : Char) (p : Page) : Page :=
  { p with text := p.text.push c, column := 0, spaced := true, fresh := true }

/-- Goes to an indentation, on a new line if this one holds anything else. -/
def indent (n : Nat) (p : Page) : Page :=
  let stays := p.fresh && (p.column < n || (p.column == n && p.spaced))
  let p := if stays then p else p.endLine '\n'
  if p.column < n then { p.put (List.replicate (n - p.column) ' ') with spaced := true } else p

/-- A sign of an item or a part of one. After a sign of a block item the line counts as fresh. -/
def sign (ofItem : Bool) (cs : List Char) (p : Page) : Page :=
  let p := if p.spaced then p else p.put [' ']
  { p.put cs with spaced := false, fresh := p.fresh && ofItem, isOpen := false }

/-- A sign that stands directly after what is before it. -/
def close (cs : List Char) (p : Page) : Page :=
  { p.put cs with spaced := false, fresh := false, isOpen := false }

/-- Begins a further line of a scalar. -/
def fold (n : Nat) (p : Page) : Page := { p.indent n with spaced := false, fresh := false }

/-! ## Scalars between single quotes and plain ones -/

inductive RunKind where
  | blanks
  | breaks
  | word
deriving DecidableEq

def runKind (c : Char) : RunKind :=
  if Style.isSpace c then .blanks else if Style.isLineEnd c then .breaks else .word

/-- The runs of blanks, of line breaks and of other characters. -/
def runs (cs : List Char) : List (List Char) := cs.splitBy fun a b => runKind a == runKind b

/-- Line breaks inside a scalar. A line feed is written twice, as a single one means a blank. -/
def putBreaks (n : Nat) (breaks : List Char) (p : Page) : Page :=
  let p := if breaks.head? = some '\n' then p.endLine '\n' else p
  (breaks.foldl (fun p c => p.endLine c) p).indent n

/-- Writes runs. A single blank between words can be a fold. -/
def putRuns (n : Nat) (folds : Bool) (encode : List Char → List Char) (isFirst : Bool) :
    List (List Char) → Page → Page
  | [], p => p
  | run :: rest, p =>
    putRuns n folds encode false rest <|
      match run.head?.map runKind with
      | some .blanks =>
        if run.length = 1 && width < p.column && folds && !isFirst && !rest.isEmpty then p.fold n
        else p.put run
      | some .breaks => p.putBreaks n run
      | _ => p.put (encode run)

def doubleQuotes (cs : List Char) : List Char :=
  cs.flatMap fun c => if c = '\'' then ['\'', '\''] else [c]

def putSingle (n : Nat) (folds : Bool) (cs : List Char) (p : Page) : Page :=
  (putRuns n folds doubleQuotes true (runs cs) (p.sign false ['\''])).close ['\'']

def putPlain (n : Nat) (folds : Bool) (cs : List Char) (p : Page) : Page :=
  let p := if p.spaced then p else p.put [' ']
  putRuns n folds id true (runs cs) { p with spaced := false, fresh := false }

/-! ## Scalars between double quotes -/

def escapeLetter? : Char → Option Char
  | '\x00' => some '0'
  | '\x07' => some 'a'
  | '\x08' => some 'b'
  | '\t' => some 't'
  | '\n' => some 'n'
  | '\x0b' => some 'v'
  | '\x0c' => some 'f'
  | '\r' => some 'r'
  | '\x1b' => some 'e'
  | '"' => some '"'
  | '\\' => some '\\'
  | '\x85' => some 'N'
  | '\u2028' => some 'L'
  | '\u2029' => some 'P'
  | _ => none

def capitalHex (digits n : Nat) : List Char := (hexDigits digits n).map Char.toUpper

def numericEscape (c : Char) : List Char :=
  let n := c.toNat
  if n ≤ 0xFF then 'x' :: capitalHex 2 n
  else if n ≤ 0xFFFF then 'u' :: capitalHex 4 n
  else 'U' :: capitalHex 8 n

/-- The escape of a character, if it has to be escaped between double quotes. -/
def escape? (c : Char) : Option (List Char) :=
  match escapeLetter? c with
  | some letter => some ['\\', letter]
  | none =>
    let n := c.toNat
    if (32 ≤ n && n ≤ 126) || (0xA0 ≤ n && n ≤ 0xFFFD && n != 0xFEFF) then none
    else some ('\\' :: numericEscape c)

/-- A fold that is no blank of the text; a blank after it is marked. -/
def foldMarked (n : Nat) (next : Char) (p : Page) : Page :=
  let p := (p.put ['\\']).fold n
  if next = ' ' then p.put ['\\'] else p

/-- Writes characters. The line can be folded before a blank, and before and after an escape. -/
def putEscaped (n : Nat) (folds : Bool) (isFirst afterEscape : Bool) :
    List Char → Page → Page
  | [], p => p
  | c :: rest, p =>
    let inside := folds && !isFirst && !rest.isEmpty
    match escape? c with
    | some escape =>
      let p := p.put escape
      putEscaped n folds false true rest <|
        if inside && width + 1 < p.column then p.foldMarked n (rest.headD ' ') else p
    | none =>
      let p := if inside && (c = ' ' || afterEscape) && width < p.column then p.foldMarked n c
        else p
      putEscaped n folds false false rest (p.put [c])

def putDouble (n : Nat) (folds : Bool) (cs : List Char) (p : Page) : Page :=
  (putEscaped n folds true false cs (p.sign false ['"'])).close ['"']

/-! ## Blocks of lines -/

/-- Writes lines below a sign, each of which ends with a line feed. -/
def putBlock (n : Nat) (cs : List Char) (p : Page) : Page :=
  ((cutAt '\n' cs).dropLast.foldl (fun p line => ((p.indent n).put line).endLine '\n')
    ((p.sign false ['|']).endLine '\n'))

end Page

end LineJoin.Yaml
