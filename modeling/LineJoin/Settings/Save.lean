import LineJoin.Files.Basic
import LineJoin.Settings.Schema
import LineJoin.Yaml.Writer

/-!
# Saving settings

`save` writes a value as a YAML file, making the directories above the file where they are missing.
A value that cannot be written changes no file. `effective` is the configuration that a run works
with: the one that was loaded, with its section on line breaks made anew from the options.
-/

namespace LineJoin.Settings

inductive SaveError where
  | unwritable (u : Yaml.Unwritable)
  | file (path : String) (fault : FileFault)

def SaveError.message : SaveError → String
  | unwritable u => "Error serializing data to YAML: " ++ u.message
  | file path fault =>
    if fault.isWrongValue then fault.message
    else "Error saving YAML file " ++ path ++ ": " ++ fault.message

/-- Writes a text to a file; what has been done before a fault is kept. -/
def saveText (files : Files) (p : Path) (makesDirectories : Bool) (text : String) :
    Files × Except SaveError Unit :=
  let (files, made) := if makesDirectories then files.ensureParents p else (files, .ok ())
  match made with
  | .error f => (files, .error (.file p.text f))
  | .ok () =>
    match files.write p text.toUTF8.toList with
    | .error f => (files, .error (.file p.text f))
    | .ok files => (files, .ok ())

def save (files : Files) (p : Path) (makesDirectories : Bool) (v : Value) :
    Files × Except SaveError Unit :=
  match Yaml.write v with
  | .error u => (files, .error (.unwritable u))
  | .ok text => saveText files p makesDirectories text

def sideEntry (name : String) (fragment : Option String) : Entries :=
  match fragment with
  | some s => [(.str name, .str s)]
  | none => []

/-- A rule with the sides that it has. -/
def ruleMapping (r : Rule) : Value :=
  .dict (sideEntry "before_break" r.before ++ sideEntry "after_break" r.after)

/-- The section on line breaks that gives the options. -/
def optionsSection (o : Options) : Value :=
  mapping [("include_hangul", .bool o.extensions.hangul),
    ("include_emoji", .bool o.extensions.emoji),
    ("include_squared_latin_abbrs", .bool o.extensions.squared),
    ("additional_regexp_pairs", .list (o.additionalRules.map ruleMapping))]

def effective (config : Entries) (o : Options) : Entries :=
  config.putNamed "line_breaks" (optionsSection o)

end LineJoin.Settings
