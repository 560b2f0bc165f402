import LineJoin.Arguments.Basic
import LineJoin.Chars.Digit
import LineJoin.Text.Capitals
import LineJoin.Text.Cut

/-!
# Reading arguments

Every argument is first told to be a value, a switch or something unknown; switches may be shortened
as long as only one name begins that way. Then they are taken from left to right: a switch takes the
values after it, and the first value left over is the input file. After two hyphens there are values
only.
-/

namespace LineJoin.Arguments

/-- One argument of a command line. -/
inductive Word where
  | value (text : String)
  /-- A switch, with the value that is written together with it. -/
  | switch (s : Switch) (joined : Option String)
  /-- The short name for help with something written after it. -/
  | helpWith (rest : String)
  | unknown (text : String)
  /-- Two hyphens, after which every argument is a value. -/
  | separator
deriving Repr

/-- Why reading ends without arguments. -/
inductive Stop where
  | help
  | fault (f : ArgumentFault)
deriving Repr

/-! ## Telling arguments apart -/

/-- A name and the value after its equals sign. -/
def splitJoined (arg : String) : String × Option String :=
  match cutFirst '=' arg.toList with
  | some (name, value) => (String.ofList name, some (String.ofList value))
  | none => (arg, none)

/-- The names that a long name, perhaps shortened, can stand for. -/
def longNames (start : String) : List (String × Switch) :=
  Switch.names.filter fun n => start.toList.isPrefixOf n.1.toList

def isNegativeNumber (arg : List Char) : Bool :=
  let arg := if arg.getLast? = some '\n' then arg.dropLast else arg
  match arg with
  | '-' :: digits =>
    match cutFirst '.' digits with
    | none => !digits.isEmpty && digits.all isDecimalDigit
    | some (whole, fraction) =>
      whole.all isDecimalDigit && !fraction.isEmpty && fraction.all isDecimalDigit
  | _ => false

/-- An argument that begins with a hyphen but names no switch. -/
def classifyOther (arg : String) : Word :=
  if isNegativeNumber arg.toList || arg.toList.contains ' ' then .value arg else .unknown arg

def classifyLong (arg : String) : Except ArgumentFault Word :=
  let (start, joined) := splitJoined arg
  match Switch.named? start, longNames start with
  | some s, _ => .ok (.switch s joined)
  | none, [(_, s)] => .ok (.switch s joined)
  | none, [] => .ok (classifyOther arg)
  | none, candidates => .error (.ambiguous arg (candidates.map (·.1)))

/-- A short name, perhaps with its value, which an equals sign may separate. -/
def classifyShort (arg : String) : List Char → Word
  | ['h'] => .switch .help none
  | ['o'] => .switch .output none
  | 'h' :: '=' :: rest | 'h' :: rest => .helpWith (String.ofList rest)
  | 'o' :: '=' :: rest | 'o' :: rest => .switch .output (some (String.ofList rest))
  | _ => classifyOther arg

def classify (arg : String) : Except ArgumentFault Word :=
  match arg.toList with
  | '-' :: '-' :: _ => classifyLong arg
  | '-' :: c :: rest => .ok (classifyShort arg (c :: rest))
  | _ => .ok (.value arg)

def words : List String → Except ArgumentFault (List Word)
  | [] => .ok []
  | arg :: rest =>
    if arg = "--" then .ok (.separator :: rest.map .value)
    else do return (← classify arg) :: (← words rest)

/-! ## Taking arguments -/

/-- Reading that is under way: what has been asked for, and what nobody has asked for. -/
structure Progress where
  arguments : Arguments
  hasInput : Bool
  extras : List String

def checkChoice (s : Switch) (value : String) : Except Stop Unit :=
  match s.choices? with
  | some choices =>
    if choices.contains value then .ok () else .error (.fault (.invalidChoice s value choices))
  | none => .ok ()

def addRule (a : Arguments) (r : Rule) : Arguments := { a with rules := a.rules ++ [r] }

/-- What a switch with its values asks for. -/
def apply (a : Arguments) (s : Switch) (values : List String) : Except Stop Arguments :=
  match s, values with
  | .help, _ => .error .help
  | .config, [v] => .ok { a with config := v }
  | .logLevel, [v] => do
    let level := capitals v
    checkChoice s level
    return { a with logLevel := some level }
  | .writeConfig, [v] => .ok { a with writeConfig := some v }
  | .output, [v] => .ok { a with output := some v }
  | .format, [v] => do
    checkChoice s v
    return { a with treeFormat := some v }
  | .encoding, [v] => .ok { a with encoding := some v }
  | .hangul, _ => .ok { a with extensions := { a.extensions with hangul := true } }
  | .emoji, _ => .ok { a with extensions := { a.extensions with emoji := true } }
  | .squared, _ => .ok { a with extensions := { a.extensions with squared := true } }
  | .before, [v] => .ok (addRule a { before := some v })
  | .after, [v] => .ok (addRule a { after := some v })
  | .pair, [b, c] => .ok (addRule a ⟨Rule.side b, Rule.side c⟩)
  | s, _ => .error (.fault (.missingValues s))

/-- The values of a switch that are separate arguments. -/
def valuesAfter (s : Switch) : Nat → List Word → Except Stop (List String)
  | 0, _ => .ok []
  | n + 1, .value v :: rest => do return v :: (← valuesAfter s n rest)
  | _ + 1, _ => .error (.fault (.missingValues s))

/-- Short names after the one for help, written together with it. Whatever they are, the help is
given in the end. -/
def helpTail (rest : List Word) : List Char → Except Stop Unit
  | [] => .ok ()
  | 'h' :: [] => .ok ()
  | 'h' :: more => helpTail rest more
  | 'o' :: [] => do
    let _ ← valuesAfter .output 1 rest
    return ()
  | 'o' :: _ => .ok ()
  | other => .error (.fault (.unwantedValue .help (String.ofList other)))

/-- The values of a switch that has one written together with it. -/
def joinedValues (s : Switch) (value : String) : Except Stop (List String) :=
  match s.valueCount with
  | 0 => .error (.fault (.unwantedValue s value))
  | 1 => .ok [value]
  | _ => .error (.fault (.missingValues s))

/-- The outcome of the short name for help with something after it. -/
def helpWith (value : String) (rest : List Word) : Except Stop Unit := do
  if value = "" then throw (.fault (.unwantedValue .help value))
  helpTail rest value.toList
  throw .help

/-- A value that no switch has taken: the input file, or one too many. -/
def takeValue (p : Progress) (v : String) : Progress :=
  if p.hasInput then { p with extras := p.extras ++ [v] }
  else { p with arguments := { p.arguments with filepath := some v }, hasInput := true }

/-- Two hyphens go unnoticed if the input file is next to them. -/
def takeSeparator (p : Progress) (afterInput : Bool) : Progress :=
  if p.hasInput && !afterInput then { p with extras := p.extras ++ ["--"] } else p

/-- Takes words one by one, leaving out those that a switch before them has taken. -/
def takeWords (p : Progress) (skip : Nat) (afterInput : Bool) : List Word → Except Stop Progress
  | [] => .ok p
  | word :: rest =>
    match skip with
    | n + 1 => takeWords p n false rest
    | 0 =>
      match word with
      | .value v => takeWords (takeValue p v) 0 (!p.hasInput) rest
      | .unknown text => takeWords { p with extras := p.extras ++ [text] } 0 false rest
      | .separator => takeWords (takeSeparator p afterInput) 0 false rest
      | .helpWith value => do
        helpWith value rest
        takeWords p 0 false rest
      | .switch s none => do
        let values ← valuesAfter s s.valueCount rest
        takeWords { p with arguments := ← apply p.arguments s values } s.valueCount false rest
      | .switch s (some joined) => do
        let values ← joinedValues s joined
        takeWords { p with arguments := ← apply p.arguments s values } 0 false rest

/-- Reads the arguments of a command line. -/
def read (args : List String) : Except Stop Arguments := do
  let ws ← (words args).mapError .fault
  let p ← takeWords ⟨{}, false, []⟩ 0 false ws
  if p.extras.isEmpty then return p.arguments
  else throw (.fault (.unrecognized p.extras))

/-- A text that was given and is not empty. -/
def given (text : Option String) : Bool := text.any (· != "")

/-- An input file is needed unless the settings are to be written, and for every output. -/
def check (a : Arguments) : Except ArgumentFault Unit :=
  if a.filepath.isNone && !given a.writeConfig then .error .noInput
  else if given a.output && a.filepath.isNone then .error .outputWithoutInput
  else .ok ()

end LineJoin.Arguments
