import LineJoin.Files.Path
import LineJoin.Log.Template
import LineJoin.Settings.Schema

/-!
# The logger

What the section on logging asks for: the least level of records that are shown, the template for
their lines, and a file to which they are added besides.
-/

namespace LineJoin

structure Logger where
  threshold : Nat
  template : Template
  file : Option String
deriving Repr

inductive LoggerError where
  | missingKey (key : String)
  /-- A value in which no key can be looked up. -/
  | noMapping (v : Value)
  | levelNotText (typeName : String)
  | templateNotText (typeName : String)
  | noField (template : String)
  | pathNotText (typeName : String)
  /-- The resolved path of the log file has a null character, so no file can be opened at it. -/
  | nullInPath

namespace LoggerError

/-- Why no text can be looked up in a value. -/
def lookupProblem (v : Value) : String :=
  match v.unshare with
  | .str _ => "string indices must be integers, not 'str'"
  | .list _ => "list indices must be integers or slices, not str"
  | .tuple _ => "tuple indices must be integers or slices, not str"
  | .bytes _ => "byte indices must be integers or slices, not str"
  | v => "'" ++ v.typeName ++ "' object is not subscriptable"

def message : LoggerError → String
  | missingKey key => quoted key
  | noMapping v => lookupProblem v
  | levelNotText t => "attribute name must be string, not '" ++ t ++ "'"
  | templateNotText t => "expected string or bytes-like object, got '" ++ t ++ "'"
  | noField template => "Invalid format '" ++ template ++ "' for '%' style"
  | pathNotText t => "expected str, bytes or os.PathLike object, not " ++ t
  | nullInPath => "embedded null byte"

end LoggerError

namespace Logger

/-- The number of the least level. Names that are not known mean `INFO`. -/
def thresholdOf (name : String) : Nat :=
  (([("CRITICAL", 50), ("FATAL", 50), ("ERROR", 40), ("WARNING", 30), ("WARN", 30), ("INFO", 20),
    ("DEBUG", 10), ("NOTSET", 0)] : List (String × Nat)).lookup name).getD 20

def lookUp (v : Value) (key : String) : Except LoggerError Value :=
  match v.mapping? with
  | none => .error (.noMapping v)
  | some entries =>
    match Entries.named? entries key with
    | some v => .ok v
    | none => .error (.missingKey key)

/-- The template that a value gives. Empty values of any type stand for the message only. -/
def templateOf (v : Value) : Except LoggerError Template :=
  match v.text? with
  | some s =>
    match Template.ofText? s with
    | some t => .ok t
    | none => .error (.noField s)
  | none => if v.truthy then .error (.templateNotText v.typeName) else .ok .bare

def ofSettings (config : Entries) : Except LoggerError Logger := do
  let levelValue ← lookUp (← lookUp (.dict config) "logging") "level"
  let threshold ← match levelValue.text? with
    | some name => pure (thresholdOf name)
    | none => throw (.levelNotText levelValue.typeName)
  let settings ← lookUp (.dict config) "logging"
  let template ← templateOf (← lookUp settings "format")
  if (← lookUp settings "file_enabled").truthy then
    let path ← lookUp settings "file_path"
    match path.text? with
    | some file =>
      if (Path.ofText file).resolved.hasNull then throw .nullInPath
      else return { threshold, template, file := some file }
    | none => throw (.pathNotText path.typeName)
  else return { threshold, template, file := none }

def admits (l : Logger) (r : Record) : Bool := l.threshold ≤ r.level.number

end Logger

end LineJoin
