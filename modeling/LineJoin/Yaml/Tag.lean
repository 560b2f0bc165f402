import LineJoin.Number.Decimal
import LineJoin.Text.Cut
import LineJoin.Yaml.Timestamp

/-!
# Tags

The tag of a node says what kind of value it stands for. A plain scalar without a tag gets one from
the way it is written, by `Tag.ofPlain`: truth values, numbers, null, dates, the sign of a merge and
the sign of a default value have their own forms, and everything else is text.
-/

namespace LineJoin.Yaml

inductive Tag where
  | null
  | bool
  | int
  | float
  | str
  | binary
  | timestamp
  | seq
  | map
  | set
  | omap
  | pairs
  | merge
  | value
  | other (text : String)
deriving DecidableEq, Repr

namespace Tag

def common : String := "tag:yaml.org,2002:"

/-- The names that stand after the common part. -/
def names : List (Tag × String) :=
  [(null, "null"), (bool, "bool"), (int, "int"), (float, "float"), (str, "str"),
    (binary, "binary"), (timestamp, "timestamp"), (seq, "seq"), (map, "map"), (set, "set"),
    (omap, "omap"), (pairs, "pairs"), (merge, "merge"), (value, "value")]

def name (t : Tag) : String := (names.lookup t).getD ""

def text : Tag → String
  | other text => text
  | t => common ++ t.name

def ofText (text : String) : Tag :=
  match names.find? fun n => common ++ n.2 == text with
  | some (t, _) => t
  | none => other text

/-! ## The forms of plain scalars -/

def boolWords : List (String × Bool) :=
  [("yes", true), ("Yes", true), ("YES", true), ("no", false), ("No", false), ("NO", false),
    ("true", true), ("True", true), ("TRUE", true), ("false", false), ("False", false),
    ("FALSE", false), ("on", true), ("On", true), ("ON", true), ("off", false), ("Off", false),
    ("OFF", false)]

def isSign (c : Char) : Bool := c == '+' || c == '-'

def dropSign : List Char → List Char
  | c :: rest => if isSign c then rest else c :: rest
  | [] => []

/-- Digits of a base, with underscores between them. -/
def areDigits (isDigitOf : Char → Bool) (cs : List Char) : Bool :=
  !cs.isEmpty && cs.all fun c => isDigitOf c || c == '_'

def isBinaryDigit (c : Char) : Bool := c == '0' || c == '1'

def isOctalDigit (c : Char) : Bool := '0' ≤ c && c ≤ '7'

def isNonzeroDigit (c : Char) : Bool := '1' ≤ c && c ≤ '9'

/-- A part of a number in base sixty: up to 59. -/
def isSixtieth : List Char → Bool
  | [d] => isDigit d
  | [t, d] => '0' ≤ t && t ≤ '5' && isDigit d
  | _ => false

/-- A decimal number that does not begin with a zero. -/
def isCounting : List Char → Bool
  | d :: rest => isNonzeroDigit d && rest.all fun c => isDigit c || c == '_'
  | [] => false

def isInt (cs : List Char) : Bool :=
  match dropSign cs with
  | ['0'] => true
  | '0' :: 'b' :: digits => areDigits isBinaryDigit digits
  | '0' :: 'x' :: digits => areDigits (fun c => (Span.hexValue? c).isSome) digits
  | '0' :: digits => areDigits isOctalDigit digits
  | body =>
    match cutAt ':' body with
    | [first] => isCounting first
    | first :: parts => isCounting first && parts.all isSixtieth
    | [] => false

/-- Nothing, or an exponent with a sign. -/
def isExponent : List Char → Bool
  | [] => true
  | e :: s :: digits => (e == 'e' || e == 'E') && isSign s && !digits.isEmpty && digits.all isDigit
  | _ => false

/-- Digits and underscores after a point, and perhaps an exponent. -/
def isFraction (cs : List Char) : Bool :=
  isExponent (cs.dropWhile fun c => isDigit c || c == '_')

def beginsWithDigits : List Char → Bool
  | d :: rest => isDigit d && rest.all fun c => isDigit c || c == '_'
  | [] => false

def infinityWords : List String := [".inf", ".Inf", ".INF"]

def notNumberWords : List String := [".nan", ".NaN", ".NAN"]

def isFloat (cs : List Char) : Bool :=
  let body := dropSign cs
  let word := String.ofList body
  infinityWords.contains word || notNumberWords.contains (String.ofList cs) ||
    match cs, cutFirst '.' body with
    | '.' :: d :: rest, _ => isDigit d && isFraction (d :: rest)
    | _, some (whole, fraction) =>
      match cutAt ':' whole with
      | [digits] => beginsWithDigits digits && isFraction fraction
      | digits :: parts =>
        beginsWithDigits digits && parts.all isSixtieth &&
          fraction.all fun c => isDigit c || c == '_'
      | [] => false
    | _, none => false

def nullWords : List String := ["~", "null", "Null", "NULL"]

/-- The tag of a text that is written in one of the special forms. -/
def special? (cs : List Char) : Option Tag :=
  let word := String.ofList cs
  if (boolWords.lookup word).isSome then some bool
  else if isFloat cs then some float
  else if isInt cs then some int
  else if word == "<<" then some merge
  else if nullWords.contains word then some null
  else if isTimestamp cs then some timestamp
  else if word == "=" then some value
  else none

/-- The tag of a plain scalar. One line feed at the end makes no difference. -/
def ofPlain (cs : List Char) : Tag :=
  if cs.isEmpty then null
  else match special? cs with
    | some t => t
    | none =>
      if cs.getLast? = some '\n' then (special? cs.dropLast).getD str else str

end Tag

end LineJoin.Yaml
