import LineJoin.Run
import Std.Time.DateTime

/-!
# The command

The files that a command line names are looked up, the run is done in a workspace that holds them,
and what has changed there is written back. Encodings are not detected here: input is decoded with
the encoding that is set and the ones to fall back to.
-/

namespace LineJoin.Command

/-- The place of a location below the working directory. -/
def placeText (l : Location) : String := String.intercalate "/" l

/-- Looks up what a path leads through. A file that cannot be read counts as missing. -/
def lookUp (files : Files) (l : Location) : List String → IO Files
  | [] => return files
  | part :: rest => do
    let l := Files.step l part
    if (files.entry? l).isSome then return ← lookUp files l rest
    let place := (← IO.currentDir) / placeText l
    if ← place.isDir then return ← lookUp (Files.put l .directory files) l rest
    match ← (IO.FS.readBinFile place).toBaseIO with
    | .ok data => return Files.put l (.file data.toList) files
    | .error _ => return files

def lookUpPath (files : Files) (p : Path) : IO Files :=
  lookUp files (if p.root = "" then [] else ["/"]) p.parts

def lookUpPaths (files : Files) (paths : List Path) : IO Files :=
  paths.foldlM lookUpPath files

/-- The log file that the settings ask for. -/
def logFile? (files : Files) (a : Arguments) : Option String :=
  match (Settings.setUp files a).outcome.1 with
  | .ok (config, _) => (Logger.ofSettings config).toOption.bind Logger.file
  | .error _ => none

/-- The files that matter for a run. -/
def filesFor (args : List String) : IO Files := do
  match Arguments.read args with
  | .error _ => return []
  | .ok a =>
    let files ← lookUpPath [] (Path.ofText a.config)
    let others := [a.filepath, a.output, a.writeConfig].filterMap fun text => text.map Path.ofText
    lookUpPaths files (others ++ ((logFile? files a).map Workspace.logPath).toList)

/-- Writes back what is new or changed. -/
def writeBack (before after : Files) : IO Unit := do
  for (l, entry) in after do
    let place := (← IO.currentDir) / placeText l
    match entry, before.lookup l with
    | .directory, none => IO.FS.createDirAll place
    | .directory, some _ => pure ()
    | .file data, old =>
      if old != some (.file data) then IO.FS.writeBinFile place (ByteArray.mk data.toArray)

def clockText : IO String := do
  let now ← Std.Time.Timestamp.now
  let t := Std.Time.PlainDateTime.ofWallTime (now.toWallTime Std.Time.TimeZone.UTC.offset)
  let day : Day := ⟨t.date.year.toInt.toNat, t.date.month.val.toNat, t.date.day.val.toNat⟩
  let fields := [t.time.hour.val, t.time.minute.val, t.time.second.val].map fun n =>
    padded 2 n.toNat
  let millis := padded 3 (t.time.nanosecond.val.toNat / 1000000)
  return day.text ++ " " ++ String.intercalate ":" fields ++ "," ++ millis

def readsInput (args : List String) : Bool :=
  match Arguments.read args with
  | .ok a => a.filepath == some "-"
  | .error _ => false

end LineJoin.Command

open LineJoin Command in
def main (args : List String) : IO UInt32 := do
  let files ← filesFor args
  let input ← if readsInput args then (← IO.getStdin).readBinToEnd else pure ByteArray.empty
  let directory := (← IO.currentDir).toString
  let surroundings : Surroundings := { clock := ← clockText }
  let w : Workspace := { files, input := input.toList, directory, surroundings }
  let (ending, w) := runCommand {} args w
  writeBack files w.files
  IO.eprint w.stderr
  IO.print w.stdout
  match ending with
  | .exit code => return UInt32.ofNat code
  | .error e =>
    IO.eprintln e.message
    return 1
