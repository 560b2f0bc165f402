import LineJoin.Arguments.Reader
import LineJoin.Libraries
import LineJoin.Settings.Overrides
import LineJoin.Settings.Save
import LineJoin.Workspace

/-!
# Runs

`run` is what the program does in a workspace for the arguments of a command line: it reads the
settings, sets up logging, saves the settings if that is asked for, and rewrites the input. It ends
with an exit code, which is zero unless something went wrong, or with an error that it does not
handle.
-/

namespace LineJoin

/-- Errors that a run does not handle. -/
inductive RunError where
  | settings (e : Settings.SetupError)
  | logging (e : LoggerError)
  | document (e : DocumentError)
  | output (f : FileFault)
  /-- The result has halves of pairs in it, which cannot be encoded. -/
  | halves

def RunError.message : RunError → String
  | settings e => e.message
  | logging e => e.message
  | document e => e.message
  | output f => f.message
  | halves => "surrogates not allowed"

inductive Ending where
  | exit (code : Nat)
  | error (e : RunError)

/-- A part of a run, which may end it. -/
abbrev Running (α : Type) : Type := ExceptT Ending (StateM Workspace) α

/-- Why the input cannot be read. -/
inductive ReadError where
  | file (f : FileFault)
  | encoding (f : Encoding.Fault)
  /-- An encoding that refuses anything. -/
  | value (message : String)

def ReadError.message : ReadError → String
  | file f => f.message
  | encoding f => f.message
  | value message => message

/-- Wrong values are not told as failures to read. -/
def ReadError.isWrongValue : ReadError → Bool
  | file f => f.isWrongValue
  | encoding _ => false
  | value _ => true

/-! ## Errors that are handled -/

/-- Scalars that do not fit their tags are handled as far as they are wrong values. -/
def Yaml.Misfit.isHandled : Yaml.Misfit → Bool
  | codePoint n => n < 0x80000000
  | noNumber | tooLarge | truth _ | timestamp => false
  | _ => true

/-- A settings file that is a directory is not handled, nor is a path with a name too long. -/
def Settings.SetupError.isHandled : Settings.SetupError → Bool
  | load (.file _) => false
  | load (.misfit m) => m.isHandled
  | _ => true

/-- A document with a node that is not as it should be is not handled. -/
def DocumentError.isHandled : DocumentError → Bool
  | tree (.rewrite .notText) => false
  | tree (.rewrite _) => true
  | tree (.tree _) => false
  | _ => true

namespace Run

def change (f : Workspace → Workspace) : Running Unit := modify f

def exit {α : Type} (code : Nat) : Running α := throw (.exit code)

def escaped (s : String) : List Char := Markup.escape s.toList

/-- Tells the user what went wrong, and ends the run. -/
def fail {α : Type} (message : List Char) : Running α := do
  change (·.tell .failure message)
  exit 1

def record (l : Logger) (level : Level) (message : String) : Running Unit :=
  change (·.emit l { level, channel := .application, message })

/-- Reports an error in the log and to the user. The subject is something that was given. -/
def failAbout {α : Type} (l : Logger) (lead subject : String) (message : String) : Running α := do
  record l .error (lead ++ subject ++ ": " ++ message)
  fail (lead.toList ++ escaped subject ++ ": ".toList ++ escaped message)

/-! ## Settings -/

def settle (a : Arguments) : Running (Entries × Options) := do
  let (result, records) := (Settings.setUp (← get).files a).outcome
  change fun w => records.foldl (fun w r => w.emitEarly r) w
  match result with
  | .ok settled => return settled
  | .error e =>
    if e.isHandled then fail ("Configuration error: ".toList ++ escaped e.message)
    else throw (.error (.settings e))

def startLogging (config : Entries) : Running Logger := do
  match Logger.ofSettings config with
  | .error e => throw (.error (.logging e))
  | .ok l =>
    let (l, w) := (← get).openLog l
    set w
    return l

def saveSettings (l : Logger) (path : String) (config : Entries) (o : Options) : Running Unit := do
  let w ← get
  let (files, result) :=
    Settings.save w.files (Path.ofText path) true (.dict (Settings.effective config o))
  set { w with files }
  match result with
  | .ok () => change (·.tell .success ("Saved configuration to ".toList ++ escaped path))
  | .error e =>
    record l .error ("Failed to save configuration: " ++ e.message)
    fail ("Failed to save configuration: ".toList ++ escaped e.message)

/-! ## Input and output -/

/-- A hyphen stands for the input stream. -/
def inputBytes (filepath : String) (w : Workspace) : Except FileFault Bytes :=
  if filepath = "-" then .ok w.input
  else
    let path := Path.ofText filepath
    w.files.read path path.text

/-- How the input is to be decoded. An encoding that is given is not detected. -/
def preferencesOf (a : Arguments) (config : Entries) : Encoding.Preferences :=
  let setting := Settings.valueOf config "input"
  let standard : Encoding.Preferences := {}
  let default := (setting "default_encoding").text?.getD standard.defaultEncoding
  { defaultEncoding := if Arguments.given a.encoding then a.encoding.getD default else default
    detects := a.encoding.isNone && (setting "detect_encoding").truthy
    threshold := (setting "confidence_threshold").number?.getD standard.threshold }

/-- What decoding comes to. A text with halves is a source as well. -/
def sourceOf : Except Encoding.Refusal (List Char) → Except ReadError Source
  | .ok cs => .ok (.text (String.ofList cs))
  | .error (.fault f) => .error (.encoding f)
  | .error (.mishap (.raised message)) => .error (.value message)
  | .error (.mishap (.halved codes)) => .ok (.halved codes)

def decodeInput (libs : Libraries) (a : Arguments) (config : Entries) (data : Bytes) :
    Logged ReadError Source :=
  let decoding :=
    Encoding.decodeWith libs.registry libs.detector (preferencesOf a config) data
  ExceptT.mk (sourceOf <$> decoding.run)

/-- Rewrites a document of the format that the settings name. There is no result where halves are
left. -/
def rewrite (libs : Libraries) (config : Entries) (o : Options) :
    Source → Logged DocumentError (Option String)
  | .halved codes => .ofExcept (libs.halvedSource config o codes)
  | .text source => do
    if (Settings.valueOf config "input" "tree_format").text? = some "mdast" then
      let result ← Document.rewriteJsonBy (libs.removeBreaks o) source
      return libs.resultFor o source result
    else
      let result ← Document.rewritePlainBy (libs.removeBreaks o) source
      return some result

/-- Does something that keeps records, and shows them. -/
def logging {ε α : Type} (l : Logger) (x : Logged ε α) : Running (Except ε α) := do
  let (result, records) := x.outcome
  change fun w => records.foldl (fun w r => w.emit l r) w
  return result

/-- Reports input that is wrong in itself. -/
def failInput {α : Type} (l : Logger) (message : String) : Running α := do
  change (·.emit l
    { level := .error, channel := .application, message := "Invalid input or break rule"
      withTrace := true })
  fail ("Error: ".toList ++ escaped message)

def failReading {α : Type} (l : Logger) (filepath : String) (e : ReadError) : Running α :=
  if e.isWrongValue then failInput l e.message
  else failAbout l "Failed to read " filepath e.message

def readSource (libs : Libraries) (l : Logger) (a : Arguments) (config : Entries)
    (filepath : String) : Running Source := do
  match inputBytes filepath (← get) with
  | .error f => failReading l filepath (.file f)
  | .ok data =>
    match ← logging l (decodeInput libs a config data) with
    | .error e => failReading l filepath e
    | .ok source => return source

def rewriteSource (libs : Libraries) (l : Logger) (config : Entries) (o : Options)
    (source : Source) : Running (Option String) := do
  match ← logging l (rewrite libs config o source) with
  | .ok result => return result
  | .error e =>
    if !e.isHandled then throw (.error (.document e))
    failInput l e.message

/-- The bytes that get written for a result. Where there is none, the file has been opened before that
is noticed. -/
def bytesOf : Option String → Bytes
  | some result => result.toUTF8.toList
  | none => []

def writeResult (l : Logger) (output : String) (result : Option String) : Running Unit := do
  let w ← get
  match w.files.write (Path.ofText output) (bytesOf result) with
  | .error f =>
    if f.isWrongValue then throw (.error (.output f))
    failAbout l "Failed to write " output f.message
  | .ok files =>
    set { w with files }
    if result.isNone then throw (.error .halves)
    change (·.tell .success ("Wrote ".toList ++ escaped output))

def printResult : Option String → Running Unit
  | some result => change (·.print result)
  | none => throw (.error .halves)

/-! ## The whole -/

def body (libs : Libraries) (a : Arguments) : Running Unit := do
  let (config, o) ← settle a
  let l ← startLogging config
  record l .debug ("Effective options: " ++ o.text)
  if Arguments.given a.writeConfig then saveSettings l (a.writeConfig.getD "") config o
  match a.filepath with
  | none => return
  | some filepath =>
    let source ← readSource libs l a config filepath
    let result ← rewriteSource libs l config o source
    if Arguments.given a.output then writeResult l (a.output.getD "") result
    else printResult result

end Run

def run (libs : Libraries) (a : Arguments) (w : Workspace) : Ending × Workspace :=
  let (result, w) := (Run.body libs a).run w
  (match result with
    | .ok () => .exit 0
    | .error ending => ending, w)

/-- A run for a command line. Help and faults of the command line end it at once. -/
def runCommand (libs : Libraries) (args : List String) (w : Workspace) : Ending × Workspace :=
  let parsed := do
    let a ← Arguments.read args
    (Arguments.check a).mapError .fault
    return a
  match parsed with
  | .ok a => run libs a w
  | .error .help => (.exit 0, w.print Arguments.help)
  | .error (.fault f) => (.exit 2, w.printError f.message)

end LineJoin
