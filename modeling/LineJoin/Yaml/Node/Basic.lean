import LineJoin.Yaml.Tag

/-!
# Nodes of YAML texts

A node is a scalar, a sequence or a mapping with its tag and its place. An alias stands for the very
node that its anchor names, which is told by the number of the node. A mapping knows its entries as
they are written, and the entries it has after its merges: what is merged comes before its own
entries, so that these win.
-/

namespace LineJoin.Yaml

structure NodeInfo where
  id : Nat
  mark : Mark
  tag : Tag
  /-- The node may occur at several places. -/
  anchored : Bool
deriving Repr

inductive Node where
  | scalar (info : NodeInfo) (text : List Char)
  | sequence (info : NodeInfo) (items : List Node)
  /-- The fault, if any, is that of a merge. -/
  | mapping (info : NodeInfo) (written merged : List (Node × Node)) (fault : Option Fault)

namespace Node

def info : Node → NodeInfo
  | scalar i _ | sequence i _ | mapping i _ _ _ => i

def tag (n : Node) : Tag := n.info.tag

def mark (n : Node) : Mark := n.info.mark

def setInfo (f : NodeInfo → NodeInfo) : Node → Node
  | scalar i text => scalar (f i) text
  | sequence i items => sequence (f i) items
  | mapping i written merged fault => mapping (f i) written merged fault

/-- How messages name the kind of a node. -/
def kind : Node → String
  | scalar _ _ => "scalar"
  | sequence _ _ => "sequence"
  | mapping _ _ _ _ => "mapping"

/-! ## Merges -/

/-- Entries that are taken over from another mapping, so that they occur at two places. -/
def share (entries : List (Node × Node)) : List (Node × Node) :=
  let mark (n : Node) := n.setInfo fun i => { i with anchored := true }
  entries.map fun e => (mark e.1, mark e.2)

/-- The entries of a mapping that is to be merged. -/
def mergeable (into : Mark) (wanted : String) (n : Node) : Except Fault (List (Node × Node)) :=
  match n with
  | mapping _ _ merged none => .ok (share merged)
  | mapping _ _ _ (some fault) => .error fault
  | n => .error (.inside .mapping (some into) (.expectedNode wanted n.kind) n.mark)

/-- What a merge with a node brings. Of several mappings the first one wins, so it comes last. -/
def mergeSource (into : Mark) : Node → Except Fault (List (Node × Node))
  | sequence _ items => do
    let parts ← items.mapM (mergeable into "mapping for merging")
    return parts.reverse.flatten
  | n => mergeable into "mapping or list of mappings for merging" n

def sourcesOf (into : Mark) (entries : List (Node × Node)) : Except Fault (List (Node × Node)) := do
  let sources := entries.filter fun e => e.1.tag == .merge
  return (← sources.mapM fun e => mergeSource into e.2).flatten

/-- The entries that a mapping has of its own. The sign of a default value is a text here. -/
def ownEntries (entries : List (Node × Node)) : List (Node × Node) :=
  (entries.filter fun e => e.1.tag != .merge).map fun e =>
    (if e.1.tag == .value then e.1.setInfo fun i => { i with tag := .str } else e.1, e.2)

def ofEntries (info : NodeInfo) (entries : List (Node × Node)) : Node :=
  match sourcesOf info.mark entries with
  | .ok sources => mapping info entries (sources ++ ownEntries entries) none
  | .error fault => mapping info entries [] (some fault)

end Node

end LineJoin.Yaml
