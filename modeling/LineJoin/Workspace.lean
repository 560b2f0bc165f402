import LineJoin.Console.Markup
import LineJoin.Files.Basic
import LineJoin.Log.Logger

/-!
# Workspaces

What a run of the program reads and changes: the files, and the standard streams. Log records go to a
log file and to the error stream, messages to the user to the error stream only.
-/

namespace LineJoin

structure Workspace where
  files : Files
  input : Bytes := []
  stdout : String := ""
  stderr : String := ""
  /-- How messages name the working directory. -/
  directory : String := "."
  /-- What log lines are shown with. -/
  surroundings : Surroundings := {}

/-- How a message to the user looks. -/
inductive Tone where
  | success
  | failure
deriving DecidableEq, Repr

def Tone.style : Tone → String
  | success => "bold green"
  | failure => "bold red"

namespace Workspace

def print (text : String) (w : Workspace) : Workspace := { w with stdout := w.stdout ++ text }

def printError (text : String) (w : Workspace) : Workspace := { w with stderr := w.stderr ++ text }

/-- Tells the user something that is written with markup. -/
def tell (tone : Tone) (message : List Char) (w : Workspace) : Workspace :=
  let markup := ("[" ++ tone.style ++ "]").toList ++ message ++ ("[/" ++ tone.style ++ "]").toList
  w.printError (String.ofList (Markup.render markup ++ ['\n']))

/-! ## Log records -/

/-- Before logging is set up only warnings and errors are shown, by their messages alone. -/
def emitEarly (r : Record) (w : Workspace) : Workspace :=
  if Level.warning.number ≤ r.level.number then w.printError (r.message ++ "\n") else w

/-- Adds a line to a file. Nothing is done where the file cannot be written any more. -/
def addLine (p : Path) (line : String) (w : Workspace) : Workspace :=
  match w.files.change p p.text fun data => data ++ line.toUTF8.toList with
  | .ok files => { w with files }
  | .error _ => w

def logPath (file : String) : Path := (Path.ofText file).resolved

def emit (l : Logger) (r : Record) (w : Workspace) : Workspace :=
  if !l.admits r then w
  else match l.template.render? w.surroundings r with
    | none => w
    | some cs =>
      let line := String.ofList (cs ++ ['\n'])
      let w := match l.file with
        | some file => w.addLine (logPath file) line
        | none => w
      w.printError line

/-- Opens the log file, making it if there is none. A logger goes on without a file that cannot be
opened, and says so. -/
def openLog (l : Logger) (w : Workspace) : Logger × Workspace :=
  match l.file with
  | none => (l, w)
  | some file =>
    match w.files.change (logPath file) ((Path.ofText file).below w.directory) id with
    | .ok files => (l, { w with files })
    | .error f =>
      let l := { l with file := none }
      let message := "Failed to set up file logging to " ++ file ++ ": " ++ f.message
      (l, w.emit l { level := .error, channel := .application, message })

end Workspace

end LineJoin
