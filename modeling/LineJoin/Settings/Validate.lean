import LineJoin.Log
import LineJoin.Settings.Lines
import LineJoin.Settings.Schema
import LineJoin.Value.Display

/-!
# Checking settings

`validate` walks through the sections of a configuration, reports keys that the schema does not know
and finds the first value that has a wrong type; after that it checks the values that are chosen
from a list. Every finding names the line of its key in the settings file, if it can be found.
-/

namespace LineJoin.Settings

inductive FindingKind where
  | wrongType
  | wrongValue (admitted : List String)
deriving DecidableEq, Repr

structure Finding where
  kind : FindingKind
  path : String
  value : Value
  line : Option Nat

def Finding.message (f : Finding) : String :=
  match f.kind with
  | .wrongType => "Invalid type for " ++ f.path ++ ": got " ++ f.value.typeName
  | .wrongValue admitted =>
    "Invalid value '" ++ f.value.display ++ "' for " ++ f.path ++ ". Must be one of: " ++
      String.intercalate ", " admitted

def lineText (line : Option Nat) : String :=
  match line with
  | some n => natText n
  | none => "unknown"

/-- The keys of a section with their paths. No path inside a section names a section again. -/
def sectionItems (path : String) (entries : Entries) : List (String × Value) :=
  entries.map fun e => (path ++ "." ++ e.1.display, e.2)

/-- All keys with their paths, each known section followed by its own keys. -/
def items (config : Entries) : List (String × Value) :=
  config.flatMap fun e =>
    let path := e.1.display
    (path, e.2) :: match e.2.dict?, schema.lookup path with
      | some entries, some .section => sectionItems path entries
      | _, _ => []

/-- Reports unknown keys up to the first value of a wrong type. -/
def checkTypes (lines : List (List Char)) :
    List (String × Value) → StateM (List Record) (Option Finding)
  | [] => return none
  | (path, v) :: rest =>
    match schema.lookup path with
    | none => do
      let message := "line " ++ lineText (lineOf? path lines) ++ ": unknown or malformed key '" ++
        path ++ "' found. Ignoring."
      modify (· ++ [⟨.warning, .settings, message, false⟩])
      checkTypes lines rest
    | some t =>
      if t.admits v then checkTypes lines rest
      else return some ⟨.wrongType, path, v, lineOf? path lines⟩

/-- The value of a key in a section; null if there is none. -/
def valueOf (config : Entries) (section_ key : String) : Value :=
  match (Entries.named config section_).mapping? with
  | some entries => Entries.named entries key
  | none => .null

def checkChoice (lines : List (List Char)) (config : Entries) (section_ key : String)
    (admitted : List String) : Option Finding :=
  let path := section_ ++ "." ++ key
  match (valueOf config section_ key).unshare with
  | .null => none
  | v =>
    if (v.text?.any fun s => admitted.contains s) then none
    else some ⟨.wrongValue admitted, path, v, lineOf? path lines⟩

/-- The first thing wrong with a configuration. -/
def validate (lines : List (List Char)) (config : Entries) : StateM (List Record) (Option Finding) := do
  match ← checkTypes lines (items config) with
  | some f => return some f
  | none =>
    match checkChoice lines config "input" "tree_format" treeFormats with
    | some f => return some f
    | none => return checkChoice lines config "logging" "level" logLevels

end LineJoin.Settings
