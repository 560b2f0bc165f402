import LineJoin.Arguments.Basic
import LineJoin.Settings.Load

/-!
# Settings of a run

The settings file with what the command line asks for laid over it. Units that are switched on are
added to those of the file, and rules of the command line replace those of the file.
-/

namespace LineJoin.Settings

inductive SetupError where
  | load (e : LoadError)
  | options (e : OptionsError)

def SetupError.message : SetupError → String
  | load e => e.message
  | options e => e.message

/-- A path, unless the text is empty. -/
def pathGiven (text : String) : Option Path := if text = "" then none else some (.ofText text)

/-- Puts a value under a key of a section. -/
def putIn (config : Entries) (section_ key : String) (v : Value) : Entries :=
  match (Entries.named config section_).dict? with
  | some entries => config.putNamed section_ (.dict (entries.putNamed key v))
  | none => config

def putTextIn (config : Entries) (section_ key : String) (text : Option String) : Entries :=
  match text with
  | some s => if s = "" then config else putIn config section_ key (.str s)
  | none => config

/-- The configuration with the log level and the format that are asked for. -/
def overrideConfig (a : Arguments) (config : Entries) : Entries :=
  putTextIn (putTextIn config "logging" "level" a.logLevel) "input" "tree_format" a.treeFormat

def overrideOptions (a : Arguments) (o : Options) : Options :=
  { extensions := o.extensions.union a.extensions
    additionalRules := if a.rules.isEmpty then o.additionalRules else a.rules }

/-- The configuration and the options of a run. -/
def setUp (files : Files) (a : Arguments) : Logged SetupError (Entries × Options) := do
  let config ← (load files (pathGiven a.config)).mapError .load
  let options ← (optionsOf config).mapError .options
  return (overrideConfig a config, overrideOptions a options)

end LineJoin.Settings
