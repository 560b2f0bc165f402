import LineJoin.Joining.Options

/-!
# Removing line breaks

A break rule becomes a pattern that takes the unit before a break, takes the break and looks at what
follows it; replacing each match by the unit deletes the break and nothing else. A carriage return
and line feed are one break. The rules are applied one after the other.
-/

namespace LineJoin

/-- A rule whose fragments do not make a pattern. -/
structure RuleFault where
  rule : Rule
  fault : Pattern.Fault
  text : List Char

def RuleFault.message (f : RuleFault) : String :=
  "Invalid break rule " ++ f.rule.text ++ ": " ++ f.fault.message f.text

namespace Rule

/-- A line break, taken as a whole. -/
def breakText : String := "(?>\\r\\n|\\r|\\n)"

/-- What is admitted on one side: a unit, or what the fragment matches. -/
def sidePattern (unit : String) : Option String → String
  | none => "(?:" ++ unit ++ ")"
  | some "" => "(?:" ++ unit ++ ")"
  | some fragment => "(?:" ++ unit ++ "|(?:" ++ fragment ++ "))"

def patternText (r : Rule) (unit : String) : String :=
  "(" ++ sidePattern unit r.before ++ ")" ++ breakText ++ "(?=" ++ sidePattern unit r.after ++ ")"

/-- The pattern of a rule, with the pattern of a unit given. -/
def compile [CharacterNames] (r : Rule) (unit : String) : Except RuleFault Pattern :=
  let text := (r.patternText unit).toList
  match Pattern.read text with
  | .ok p => .ok p
  | .error fault => .error ⟨r, fault, text⟩

end Rule

/-- The patterns of all rules, or the fault of the first rule that has one. -/
def compileRules (o : Options) : Except RuleFault (List Pattern) :=
  o.rules.mapM fun r => r.compile (Units.unitText o.extensions)

/-- Applies patterns in order, each to what the one before has left. -/
def rewriteText (patterns : List Pattern) (text : List Char) : List Char :=
  patterns.foldl (fun t p => p.keepFirstGroup t) text

def rewriteString (patterns : List Pattern) (text : String) : String :=
  String.ofList (rewriteText patterns text.toList)

inductive RewriteError where
  | notText
  | options (e : OptionsError)
  | rule (f : RuleFault)

def RewriteError.message : RewriteError → String
  | notText => "Input must be a string"
  | options e => e.message
  | rule f => f.message

/-- The patterns for options. -/
def patternsOf (o : Options) : Logged RewriteError (List Pattern) :=
  .ofExcept ((compileRules o).mapError .rule)

/-- The patterns for options that are given as a value. -/
def patternsOfValue (options : Value) : Logged RewriteError (List Pattern) := do
  patternsOf (← (Options.ofValue options).mapError .options)

/-- Removes line breaks from a text. The type of the text is looked at first. -/
def removeBreaks (text options : Value) : Logged RewriteError String :=
  match text.text? with
  | none => throw .notText
  | some s => do return rewriteString (← patternsOfValue options) s

end LineJoin
