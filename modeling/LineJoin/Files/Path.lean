import LineJoin.Text.Cut

/-!
# Paths

A path is read from its text once: repeated slashes and steps that stay in place are dropped, while
steps to the parent are kept. The empty text is the path of the current directory.
-/

namespace LineJoin

structure Path where
  /-- The slashes that an absolute path begins with. -/
  root : String
  parts : List String
deriving DecidableEq, Repr, Inhabited

namespace Path

/-- The slashes at the beginning; three or more are the same as one. -/
def rootOf : List Char → String
  | '/' :: '/' :: '/' :: _ => "/"
  | '/' :: '/' :: _ => "//"
  | '/' :: _ => "/"
  | _ => ""

def ofText (s : String) : Path :=
  { root := rootOf s.toList
    parts := ((cutAt '/' s.toList).map String.ofList).filter fun part => part != "" && part != "." }

def text (p : Path) : String :=
  if p.root = "" && p.parts.isEmpty then "." else p.root ++ String.intercalate "/" p.parts

/-- A path with a null character leads nowhere and cannot be made. -/
def hasNull (p : Path) : Bool := p.parts.any fun part => part.toList.contains '\x00'

def parent (p : Path) : Path := { p with parts := p.parts.dropLast }

/-- Takes back a step for each step to the parent, without regard to what the steps lead to. -/
def resolve : List String → List String → List String
  | done, [] => done
  | done, part :: rest =>
    if part = ".." && !done.isEmpty && done.getLast? ≠ some ".." then resolve done.dropLast rest
    else resolve (done ++ [part]) rest

def resolved (p : Path) : Path := { p with parts := resolve [] p.parts }

/-- The resolved path below a directory that is called by a name. -/
def below (directory : String) (p : Path) : String :=
  if p.root = "" then String.intercalate "/" (directory :: p.resolved.parts)
  else p.resolved.text

end Path

end LineJoin
