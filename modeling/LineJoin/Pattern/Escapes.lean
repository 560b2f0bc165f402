import LineJoin.Chars.Lexicon
import LineJoin.Pattern.Source
import LineJoin.Text.Identifier

/-!
# Escapes and bracket classes

What stands after a backslash is a character, a property or a node of its own, and what stands in
brackets is a class of characters. The names of properties and characters are those of the
`CharacterNames` in scope.
-/

namespace LineJoin.Pattern

open Reader

variable [CharacterNames]

/-- What an escape or a bracket stands for: one character, a property, or a whole node. -/
inductive Atom where
  | code (c : Nat)
  | property (p : Property) (positive : Bool)
  | node (n : Node Ref)

def Atom.toNode (ignoreCase : Bool) : Atom → Node Ref
  | code c => .char ignoreCase (.code c)
  | property p positive => .char ignoreCase (.property p positive)
  | node n => n

def isOctal (c : Char) : Bool := '0' ≤ c && c ≤ '7'

def octalValue (digits : List Char) : Nat :=
  digits.foldl (fun n c => 8 * n + digitValue c) 0

def isNamePart (c : Char) : Bool := c.isAlphanum || c == ' ' || c == '-'

def isPropertyPart (c : Char) : Bool := c.isAlphanum || [' ', '&', '_', '-', '.'].contains c

def isValuePart (c : Char) : Bool := isPropertyPart c || c == '/'

/-- The name of a group, up to a closing bracket or parenthesis. -/
def readName (allowNumber : Bool) : Reader (List Char) := do
  let name ← takeWhile fun c => c != ')' && c != '>'
  if name.isEmpty then fail .missingName
  else if name.all isDigit then
    if !allowNumber || digitsValue name < 1 then fail .badName else return name
  else if isIdentifier name then return name
  else fail .badName

/-- A given number of hexadecimal digits; those found if there are fewer. -/
def readHexDigits : Nat → Reader (Bool × List Char)
  | 0 => return (true, [])
  | n + 1 => do
    match ← next with
    | some c =>
      if (Span.hexValue? c).isSome then
        let (complete, rest) ← readHexDigits n
        return (complete, c :: rest)
      else return (false, [])
    | none => return (false, [])

/-- The digits of an escape such as `x41`; the place after the letter is where faults are. -/
def readHexEscape (letter : Char) (length : Nat) : Reader Atom := do
  let start ← position
  let (complete, digits) ← readHexDigits length
  if !complete then failAt start (.incompleteEscape (letter :: digits))
  else
    let value := Span.hexNumber digits
    if value < 0x110000 then return .code value
    else failAt start (.badHexEscape (letter :: digits))

/-- A character given by its name in braces; without such a name the letter stands for itself. -/
def readNamedCharacter : Reader Atom := do
  let found ← attempt do
    if ← accept '\x7b' then
      let name ← takeExactly isNamePart
      if ← accept '\x7d' then return some name else return none
    else return none
  match found with
  | some name =>
    match CharacterNames.character? name with
    | some c => return .code c
    | none => fail .undefinedName
  | none => return .code 'N'.toNat

/-- A property name, with the property it is a value of if there is one. -/
def readPropertyName : Reader (Option (List Char) × List Char) := do
  let name ← takeWhile isPropertyPart
  let qualified ← attempt do
    match ← next with
    | some c =>
      if c = ':' || c = '=' then
        let value := strip (← takeWhile isValuePart)
        if value.isEmpty then return none else return some value
      else return none
    | none => return none
  match qualified with
  | some value => return (some name, value)
  | none => return (none, name)

def findProperty (inClass : Bool) (property : Option (List Char)) (name : List Char) :
    Reader Property := do
  match property with
  | some property =>
    match CharacterNames.qualified? property name with
    | .found p => return p
    | .unknownProperty => fail .unknownProperty
    | .unknownValue => fail .unknownPropertyValue
  | none =>
    let found :=
      if inClass then CharacterNames.inClass? name else CharacterNames.property? name
    match found with
    | some p => return p
    | none => fail .unknownProperty

/-- The braces of a property, with its sign, property and name. -/
def readBraced (positive : Bool) : Reader (Option (Bool × Option (List Char) × List Char)) :=
  attempt do
    if ← accept '\x7b' then
      let negated ← accept '^'
      let (property, name) ← readPropertyName
      if ← accept '\x7d' then return some (positive != negated, property, name) else return none
    else return none

/-- A property in braces or given by one letter; otherwise the escape letter stands for itself. -/
def readProperty (positive : Bool) : Reader Atom := do
  match ← readBraced positive with
  | some (sign, property, name) => return .property (← findProperty false property name) sign
  | none =>
    let letter ← attempt do
      match ← next with
      | some c => return if ['C', 'L', 'M', 'N', 'P', 'S', 'Z'].contains c then some c else none
      | none => return none
    match letter with
    | some c => return .property (← findProperty false none [c]) positive
    | none => return .code (if positive then 'p'.toNat else 'P'.toNat)

/-- Up to two more octal digits. -/
def readOctal (first : Char) : Reader Atom := do
  let more ← takeOctal 2
  let digits := first :: more
  if digits.all isOctal then return .code (octalValue digits)
  else fail (.badEscape first)
where
  takeOctal : Nat → Reader (List Char)
    | 0 => return []
    | n + 1 => do
      let digit ← attempt do
        match ← next with
        | some c => return if isOctal c then some c else none
        | none => return none
      match digit with
      | some c => return c :: (← takeOctal n)
      | none => return []

def takeDigit (p : Char → Bool) : Reader (Option Char) :=
  attempt do
    match ← next with
    | some c => return if p c then some c else none
    | none => return none

def makeBackref (name : List Char) (place : Nat) : Reader Atom := do
  return .node (.backref (← flags).ignoreCase ⟨name, place, .again⟩)

/-- A digit that is not zero begins the number of a group, or an octal escape of three digits. -/
def readNumeric (first : Char) : Reader Atom := do
  let second ← takeDigit isDigit
  match second with
  | none => group [first]
  | some d =>
    let third ← if isOctal first && isOctal d then takeDigit isOctal else pure none
    match third with
    | some e => return .code (octalValue [first, d, e] % 512)
    | none => group [first, d]
where
  group (digits : List Char) : Reader Atom := do
    if ← isOpenGroup digits then fail .openReference
    else makeBackref digits (← position)

/-- A reference in angle brackets; the letter stands for itself if there is no proper one. -/
def readGroupEscape : Reader Atom := do
  let s ← get
  match (reference.run s : Except Interrupt (Atom × ReadState)) with
  | .ok (atom, s') => set s'; return atom
  | .error (.restart f) => throw (.restart f)
  | .error (.fault _) => return .code 'g'.toNat
where
  reference : Reader Atom := do
    expect '<'
    let place ← position
    let name ← readName true
    expect '>'
    if ← isOpenGroup name then fail .openReference
    else makeBackref name place

/-- A reference to a list of texts by its name. There are no such lists. -/
def readListName : Reader Atom := do
  expect '<'
  let _ ← readName true
  expect '>'
  fail .unknownList

/-- Escapes that stand for a place, or for the start of what is replaced. -/
def placeEscape? : Char → Option (Node Ref)
  | 'A' => some (.anchor .textStart)
  | 'Z' => some (.anchor .textEnd)
  | 'b' => some (.anchor (.wordBoundary true))
  | 'B' => some (.anchor (.wordBoundary false))
  | 'm' => some (.anchor .wordStart)
  | 'M' => some (.anchor .wordEnd)
  | 'G' => some (.anchor .searchStart)
  | 'K' => some .keep
  | _ => none

def classEscape? : Char → Option Atom
  | 'd' => some (.property .digit true)
  | 'D' => some (.property .digit false)
  | 's' => some (.property .space true)
  | 'S' => some (.property .space false)
  | 'w' => some (.property .word true)
  | 'W' => some (.property .word false)
  | 'h' => some (.property .blank true)
  | _ => none

def controlEscape? : Char → Option Nat
  | 'a' => some 7
  | 'b' => some 8
  | 'f' => some 12
  | 'n' => some 10
  | 'r' => some 13
  | 't' => some 9
  | 'v' => some 11
  | _ => none

/-- Any line ending, a carriage return and line feed together first. -/
def lineEnding : Node Ref :=
  .atomic (.alt (.seq (.char false (.code 13)) (.char false (.code 10)))
    (.char false (.set true [.span 10 13, .code 0x85, .span 0x2028 0x2029])))

/-- The characters up to the next boundary of a grapheme cluster. -/
def graphemeCluster : Node Ref :=
  .atomic (.seq (.repeated false 1 none (.char false .any)) (.anchor .graphemeBoundary))

def hexEscapeLength? : Char → Option Nat
  | 'x' => some 2
  | 'u' => some 4
  | 'U' => some 8
  | _ => none

def readEscape (inSet : Bool) : Reader Atom := do
  match ← nextExact with
  | none => fail .escapeAtEnd
  | some c =>
    match hexEscapeLength? c with
    | some length => readHexEscape c length
    | none =>
      if c = 'g' && !inSet then readGroupEscape
      else if c = 'N' then readNamedCharacter
      else if c = 'p' || c = 'P' then readProperty (c == 'p')
      else if c = 'R' && !inSet then return .node lineEnding
      else if c = 'X' && !inSet then return .node graphemeCluster
      else if c = 'L' && !inSet then readListName
      else if isDigit c then
        if inSet || c = '0' then readOctal c else readNumeric c
      else if c.isAlpha then
        match if inSet then none else placeEscape? c with
        | some n => return .node n
        | none =>
          match classEscape? c with
          | some atom => return atom
          | none =>
            match controlEscape? c with
            | some n => return .code n
            | none => fail (.badEscape c)
      else return .code c.toNat

def Atom.toItem : Atom → SetItem
  | code c => .code c
  | property p positive => .property p positive
  | node _ => .span 1 0

/-- A named class between `[:` and `:]`. -/
def readNamedClass : Reader (Option (Bool × Option (List Char) × List Char)) :=
  attempt do
    if (← accept '[') && (← accept ':') then
      let negated ← accept '^'
      let (property, name) ← readPropertyName
      if (← accept ':') && (← accept ']') then return some (!negated, property, name)
      else return none
    else return none

def readSetItem : Reader SetItem := do
  if ← accept '\\' then return (← readEscape true).toItem
  else
    match ← readNamedClass with
    | some (sign, property, name) => return .property (← findProperty true property name) sign
    | none =>
      match ← next with
      | some c => return .code c.toNat
      | none => fail .unterminatedSet

/-- A member of a bracket class: an item, or a range between two characters. A hyphen before the
closing bracket or next to something that is no character stands for itself. -/
def readSetMember : Reader (List SetItem) := do
  match ← readSetItem with
  | .code low =>
    if ← accept '-' then
      if ← peek (accept ']') then return [.code low, .code '-'.toNat]
      else
        match ← readSetItem with
        | .code high =>
          if high < low then fail .badRange
          else if low = high then return [.code low]
          else return [.span low high]
        | item => return [.code low, .code '-'.toNat, item]
    else return [.code low]
  | item => return [item]

/-- The members up to the closing bracket, which is not taken. -/
def readSetMembers : Nat → Reader (List SetItem)
  | 0 => fail .unterminatedSet
  | fuel + 1 => do
    let member ← readSetMember
    if ← peek (accept ']') then return member
    else return member ++ (← readSetMembers fuel)

/-- A bracket class after its opening bracket. Nothing is passed over inside, and a closing bracket
in the first place is a member. -/
def readSet : Reader CharTest := do
  let s ← get
  set { s with skips := false }
  let negated ← accept '^'
  let items ← readSetMembers (s.rest.length + 1)
  expect ']'
  modify fun t => { t with skips := s.skips }
  return .set (!negated) items

end LineJoin.Pattern
