import LineJoin.Encoding.Unicode
import LineJoin.Files.Basic
import LineJoin.Settings.Merge
import LineJoin.Settings.Validate
import LineJoin.Text.Line
import LineJoin.Yaml.Reader

/-!
# Loading settings

`loadMapping` reads a YAML file that holds a mapping. `load` reads the settings of the program: what
the file does not say, or everything if there is no file, is taken from the default settings. A file
with a value of a wrong type is refused.
-/

namespace LineJoin.Settings

inductive LoadError where
  | missing (path : String)
  /-- The file cannot be opened. -/
  | unreadable (path : String) (fault : FileFault)
  | faulty (path : String) (fault : Yaml.Fault)
  | misfit (m : Yaml.Misfit)
  | notMapping (typeName : String)
  | encoding (fault : Encoding.Fault)
  | file (fault : FileFault)
  | invalid (path : String) (finding : Finding)

def LoadError.message : LoadError → String
  | missing path => "YAML file not found: " ++ path
  | unreadable path fault => "Error loading YAML file " ++ path ++ ": " ++ fault.message
  | faulty path fault => "Error parsing YAML file " ++ path ++ ": " ++ fault.message path
  | misfit m => m.message
  | notMapping typeName =>
    "YAML file must contain a dictionary at the root level, got " ++ typeName
  | encoding fault => fault.message
  | file fault => fault.message
  | invalid path finding =>
    path ++ ", line " ++ lineText finding.line ++ ": " ++ finding.message

/-- Where a character is cut off by the end of the text, its bytes are counted from zero. -/
def countedAtEnd (f : Encoding.Fault) (size : Nat) : Encoding.Fault :=
  if f.stop = size && f.reason == "unexpected end of data" then
    { f with start := 0, stop := f.stop - f.start }
  else f

/-- The characters of a text file, with all its line breaks as line feeds. -/
def textOf (data : Bytes) : Except Encoding.Fault (List Char) :=
  (Encoding.Utf8.decode data).map unifyBreaks

def mappingOf (path : String) (data : Bytes) : Except LoadError Entries := do
  let text ← (textOf data).mapError fun f => .encoding (countedAtEnd f data.length)
  match Yaml.read text with
  | .error (.misfit m) => throw (.misfit m)
  | .error fault => throw (.faulty path fault)
  | .ok v =>
    match v.dict?, v.unshare with
    | some entries, _ => return entries
    | none, .null => return []
    | none, _ => throw (.notMapping v.typeName)

/-- The mapping that a YAML file holds. -/
def loadMapping (files : Files) (p : Path) : Except LoadError Entries := do
  if !(← (files.has p).mapError .file) then throw (.missing p.text)
  let data ← (files.read p p.text).mapError (.unreadable p.text)
  mappingOf p.text data

/-- The text of a settings file, if there is one. -/
def source? (files : Files) (path : Option Path) : Except LoadError (Option (List Char)) := do
  match path with
  | none => return none
  | some p =>
    if !(← (files.has p).mapError .file) then return none
    let data ← (files.read p p.text).mapError .file
    return some (← (textOf data).mapError .encoding)

/-- The lines of a settings file; none if it cannot be read. -/
def sourceLines (files : Files) (path : Option Path) : List (List Char) :=
  match source? files path with
  | .ok (some text) => lines text
  | _ => []

/-- Checks what a file says and adds the default settings to it. -/
def complete (path : String) (text : List (List Char)) (config : Entries) :
    Logged LoadError Entries := do
  if config.isEmpty then
    .log .warning .settings "Configuration file is empty. Using defaults."
    return defaults
  match ← ExceptT.lift (validate text config) with
  | some finding => throw (.invalid path finding)
  | none => return merge defaults config

/-- The settings of the program. -/
def load (files : Files) (path : Option Path) : Logged LoadError Entries := do
  match path, ← .ofExcept (source? files path) with
  | some p, some text =>
    complete p.text (lines text) (← .ofExcept (loadMapping files p))
  | some p, none =>
    .log .info .settings ("Configuration file not found: " ++ p.text ++ ". Using defaults.")
    return defaults
  | none, _ => return defaults

end LineJoin.Settings
