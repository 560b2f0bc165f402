import LineJoin.Encoding.Basic
import LineJoin.Files.Path

/-!
# Files

The files and directories below a working directory, as a value. Reading and writing follow the steps
of a path, each of which has to be a directory, and say what is wrong with a path that leads nowhere.
Nothing is known to exist outside of the working directory.
-/

namespace LineJoin

abbrev Bytes := List UInt8

inductive FileProblem where
  | noEntry
  | exists
  | notDirectory
  | isDirectory
  | nameTooLong
  /-- A null character in the path, which makes it a wrong value. -/
  | nullInPath
deriving DecidableEq, Repr

structure FileFault where
  problem : FileProblem
  /-- The path as it was given. -/
  path : String
deriving DecidableEq, Repr

def FileFault.message (f : FileFault) : String :=
  let about (text : String) : String := text ++ ": " ++ quoted f.path
  match f.problem with
  | .noEntry => about "[Errno 2] No such file or directory"
  | .exists => about "[Errno 17] File exists"
  | .notDirectory => about "[Errno 20] Not a directory"
  | .isDirectory => about "[Errno 21] Is a directory"
  | .nameTooLong => about "[Errno 36] File name too long"
  | .nullInPath => "embedded null byte"

/-- A wrong value is no failure of the system. -/
def FileFault.isWrongValue (f : FileFault) : Bool := f.problem == .nullInPath

inductive Entry where
  | file (data : Bytes)
  | directory
deriving DecidableEq, Repr

/-- A place below the working directory. -/
abbrev Location := List String

/-- What there is at each place, in the order in which it was made. -/
abbrev Files := List (Location × Entry)

namespace Files

/-- The working directory and the directories above it always exist. -/
def isFixed (l : Location) : Bool := l == ["/"] || l.all (· == "..")

def entry? (fs : Files) (l : Location) : Option Entry :=
  if isFixed l then some .directory else fs.lookup l

/-- Puts an entry at a place. -/
def put (l : Location) (e : Entry) : Files → Files
  | [] => [(l, e)]
  | (m, old) :: rest => if m = l then (m, e) :: rest else (m, old) :: put l e rest

/-- One step further. The parent of the working directory is outside of it. -/
def step (l : Location) (part : String) : Location :=
  if part = ".." && !isFixed l then l.dropLast else l ++ [part]

/-- How many bytes a name may have. -/
def longestName : Nat := 255

/-- Follows steps, all of which start from a directory. -/
def follow (fs : Files) : Location → List String → Except FileProblem Location
  | l, [] => .ok l
  | l, part :: rest =>
    match fs.entry? l with
    | some .directory =>
      if longestName < part.utf8ByteSize then .error .nameTooLong
      else follow fs (step l part) rest
    | some (.file _) => .error .notDirectory
    | none => .error .noEntry

/-- How many bytes the text of a path may have. -/
def longestPath : Nat := 4095

def locate (fs : Files) (p : Path) : Except FileProblem Location :=
  if p.hasNull then .error .nullInPath
  else if longestPath < p.text.utf8ByteSize then .error .nameTooLong
  else fs.follow (if p.root = "" then [] else ["/"]) p.parts

/-- What a path leads to, if it leads anywhere. -/
def find? (fs : Files) (p : Path) : Except FileProblem Entry := do
  match fs.entry? (← fs.locate p) with
  | some e => return e
  | none => throw .noEntry

def isDirectory (fs : Files) (p : Path) : Bool :=
  match fs.find? p with
  | .ok .directory => true
  | _ => false

/-- Whether a path leads anywhere. A name that is too long is a fault; a null character is none. -/
def has (fs : Files) (p : Path) : Except FileFault Bool :=
  match fs.find? p with
  | .ok _ => .ok true
  | .error .nameTooLong => .error ⟨.nameTooLong, p.text⟩
  | .error _ => .ok false

/-- The content of a file. The fault names the path as `shown`. -/
def read (fs : Files) (p : Path) (shown : String) : Except FileFault Bytes :=
  match fs.find? p with
  | .ok (.file data) => .ok data
  | .ok .directory => .error ⟨.isDirectory, shown⟩
  | .error e => .error ⟨e, shown⟩

/-- Changes the content of a file, which is empty if there is none yet. -/
def change (fs : Files) (p : Path) (shown : String) (f : Bytes → Bytes) : Except FileFault Files :=
  match fs.locate p with
  | .error e => .error ⟨e, shown⟩
  | .ok l =>
    match fs.entry? l with
    | some .directory => .error ⟨.isDirectory, shown⟩
    | some (.file data) => .ok (put l (.file (f data)) fs)
    | none => .ok (put l (.file (f [])) fs)

def write (fs : Files) (p : Path) (data : Bytes) : Except FileFault Files :=
  fs.change p p.text fun _ => data

/-! ## Making directories -/

def makeDirectory (fs : Files) (p : Path) : Except FileProblem Files := do
  let l ← fs.locate p
  match fs.entry? l with
  | some _ => throw .exists
  | none => return put l .directory fs

/-- Makes a directory unless there is one already. -/
def ensureDirectory (fs : Files) (p : Path) : Except FileProblem Files :=
  match fs.makeDirectory p with
  | .ok fs => .ok fs
  | .error .noEntry => .error .noEntry
  | .error e => if fs.isDirectory p then .ok fs else .error e

/-- Makes a directory together with those above it that are missing. -/
def ensureDirectories (fs : Files) : Nat → Path → Files × Except FileFault Unit
  | 0, p => (fs, .error ⟨.noEntry, p.text⟩)
  | fuel + 1, p =>
    match fs.ensureDirectory p with
    | .ok fs => (fs, .ok ())
    | .error .noEntry =>
      if p.parts.isEmpty then (fs, .error ⟨.noEntry, p.text⟩)
      else
        match ensureDirectories fs fuel p.parent with
        | (fs, .error e) => (fs, .error e)
        | (fs, .ok ()) =>
          match fs.ensureDirectory p with
          | .ok fs => (fs, .ok ())
          | .error e => (fs, .error ⟨e, p.text⟩)
    | .error e => (fs, .error ⟨e, p.text⟩)

def ensureParents (fs : Files) (p : Path) : Files × Except FileFault Unit :=
  fs.ensureDirectories (p.parts.length + 1) p.parent

end Files

end LineJoin
