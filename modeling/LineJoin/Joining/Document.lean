import LineJoin.Joining.Tree
import LineJoin.Json.Reader
import LineJoin.Json.Writer

/-!
# Documents

A document is plain text or the JSON form of a document tree. Plain text is rewritten as the only
text node of a tree; a JSON document is read, rewritten and written again with an indentation of two.
This can be done with any way of removing the line breaks of a tree.
-/

namespace LineJoin

inductive DocumentError where
  | json (fault : Json.Fault) (text : List Char)
  | rootNotObject (typeName : String)
  | tree (e : TreeRewriteError)

def DocumentError.message : DocumentError → String
  | json fault text => fault.message text
  | rootNotObject t => "mdast JSON root must be an object, got " ++ t
  | tree e => e.message

namespace Document

section By

variable (removeBreaks : Value → Tree.Outcome)

/-- Rewrites a tree, keeping what it reports. -/
def rewriteTreeBy (tree : Value) : Logged DocumentError Value :=
  let run := removeBreaks tree
  ExceptT.mk do
    modify (· ++ run.records)
    return match run.result with
      | .ok _ => .ok run.tree
      | .error e => .error (.tree e)

def rewritePlainBy (text : String) : Logged DocumentError String := do
  let tree ← rewriteTreeBy removeBreaks (Tree.root [Tree.paragraph [Tree.textNode text]])
  match Tree.texts "text" tree with
  | .ok texts => return String.join texts
  | .error e => throw (.tree (.tree e))

def rewriteJsonBy (source : String) : Logged DocumentError String := do
  match Json.read source.toList with
  | .error fault => throw (.json fault source.toList)
  | .ok (.dict entries) =>
    let tree ← rewriteTreeBy removeBreaks (.dict entries)
    return String.ofList (Json.write (.indented 2) tree ++ ['\n'])
  | .ok v => throw (.rootNotObject v.typeName)

end By

def rewritePlain (o : Options) (text : String) : Logged DocumentError String :=
  rewritePlainBy (Tree.removeBreaks (patternsOf o)) text

def rewriteJson (o : Options) (source : String) : Logged DocumentError String :=
  rewriteJsonBy (Tree.removeBreaks (patternsOf o)) source

end Document

end LineJoin
