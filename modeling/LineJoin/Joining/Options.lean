import LineJoin.Joining.Units
import LineJoin.Log
import LineJoin.Value.Display

/-!
# Options

The options of a run: which extensions count as units, and additional break rules. `Options.ofValue`
reads them from a mapping with either spelling of each name. Unknown names are reported and passed
over; the first value of a wrong type is an error.
-/

namespace LineJoin

structure Options where
  extensions : Extensions := {}
  additionalRules : List Rule := []
deriving DecidableEq, Repr

inductive OptionsError where
  | notMapping (typeName : String)
  | flagNotBool (key : String) (typeName : String)
  | rulesNotList (key : String) (typeName : String)
  | ruleNotMapping (key : String) (index : Nat) (typeName : String)
  | sideNotText (key : String) (index : Nat) (side : String) (typeName : String)
deriving DecidableEq, Repr

def ruleLabel (key : String) (index : Nat) : String := key ++ "[" ++ natText index ++ "]"

def OptionsError.message : OptionsError → String
  | notMapping t => "Options must be a mapping, got " ++ t
  | flagNotBool key t => "Option '" ++ key ++ "' must be a boolean, got " ++ t
  | rulesNotList key t => "Option '" ++ key ++ "' must be a list of rule mappings, got " ++ t
  | ruleNotMapping key i t => ruleLabel key i ++ " must be a mapping, got " ++ t
  | sideNotText key i side t => ruleLabel key i ++ "." ++ side ++ " must be a string, got " ++ t

namespace Options

/-- The rules to apply. Without additional ones there is one rule that asks for units only. -/
def rules (o : Options) : List Rule :=
  if o.additionalRules.isEmpty then [{}] else o.additionalRules

/-- How messages show options. -/
def text (o : Options) : String :=
  "LineBreakOptions(include_hangul=" ++ Value.boolText o.extensions.hangul ++
    ", include_emoji=" ++ Value.boolText o.extensions.emoji ++
    ", include_squared_latin_abbrs=" ++ Value.boolText o.extensions.squared ++
    ", additional_regexp_pairs=" ++ Value.tupleText (o.additionalRules.map Rule.text) ++ ")"

inductive Flag where
  | hangul
  | emoji
  | squared
deriving DecidableEq, Repr

def flagNamed? : String → Option Flag
  | "includeHangul" | "include_hangul" => some .hangul
  | "includeEmoji" | "include_emoji" => some .emoji
  | "includeSquaredLatinAbbrs" | "include_squared_latin_abbrs" => some .squared
  | _ => none

def isRulesName (name : String) : Bool :=
  name == "additionalRegexpPairs" || name == "additional_regexp_pairs"

inductive Side where
  | before
  | after
deriving DecidableEq, Repr

def sideNamed? : String → Option Side
  | "beforeBreak" | "before_break" => some .before
  | "afterBreak" | "after_break" => some .after
  | _ => none

def setFlag (x : Extensions) (b : Bool) : Flag → Extensions
  | .hangul => { x with hangul := b }
  | .emoji => { x with emoji := b }
  | .squared => { x with squared := b }

def setSide (r : Rule) (fragment : Option String) : Side → Rule
  | .before => { r with before := fragment }
  | .after => { r with after := fragment }

def warn (message : String) : Logged OptionsError Unit := .log .warning .options message

/-- A value under the name of a flag. Null leaves the flag as it is. -/
def readFlag (name : String) (flag : Flag) (value : Value) (o : Options) :
    Except OptionsError Options :=
  match value.unshare with
  | .null => .ok o
  | .bool b => .ok { o with extensions := setFlag o.extensions b flag }
  | v => .error (.flagNotBool name v.typeName)

/-- The sides of a rule, entry by entry. -/
def readSides (key : String) (index : Nat) : Entries → Rule → Logged OptionsError Rule
  | [], r => pure r
  | (name, fragment) :: rest, r =>
    match name.text?.bind fun n => (sideNamed? n).map fun s => (n, s) with
    | none => do
      warn ("Unknown or malformed key '" ++ name.display ++ "' in " ++ ruleLabel key index ++
        ". Ignoring.")
      readSides key index rest r
    | some (text, side) =>
      match fragment.unshare with
      | .null => readSides key index rest (setSide r none side)
      | .str s => readSides key index rest (setSide r (Rule.side s) side)
      | v => throw (.sideNotText key index text v.typeName)

/-- A rule, or a mapping with its sides. -/
def readRule (key : String) (index : Nat) (item : Value) : Logged OptionsError Rule :=
  match item.unshare with
  | .rule r => pure r
  | v => match v.mapping? with
    | some entries => readSides key index entries {}
    | none => throw (.ruleNotMapping key index v.typeName)

def readItems (key : String) : Nat → List Value → Logged OptionsError (List Rule)
  | _, [] => pure []
  | index, item :: rest => do
    let r ← readRule key index item
    return r :: (← readItems key (index + 1) rest)

def readRules (key : String) (value : Value) : Logged OptionsError (List Rule) :=
  match value.unshare with
  | .null => pure []
  | .list items | .tuple items => readItems key 0 items
  | v => throw (.rulesNotList key v.typeName)

/-- The entries of an options mapping, one after the other. -/
def readEntries : Entries → Options → Logged OptionsError Options
  | [], o => pure o
  | (key, value) :: rest, o =>
    match key.text? with
    | none => do
      warn ("Unknown or malformed option '" ++ key.display ++ "' found. Ignoring.")
      readEntries rest o
    | some name =>
      match flagNamed? name with
      | some flag => do readEntries rest (← .ofExcept (readFlag name flag value o))
      | none =>
        if isRulesName name then do
          readEntries rest { o with additionalRules := ← readRules name value }
        else do
          warn ("Unknown or malformed option '" ++ name ++ "' found. Ignoring.")
          readEntries rest o

/-- Options from a mapping, or the default ones from null. -/
def ofValue (data : Value) : Logged OptionsError Options :=
  match data.unshare with
  | .null => pure {}
  | v => match v.mapping? with
    | some entries => readEntries entries {}
    | none => throw (.notMapping v.typeName)

end Options

end LineJoin
