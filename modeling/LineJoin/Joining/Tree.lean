import LineJoin.Joining.Rewrite

/-!
# Document trees

A document tree is a value. A node is a mapping or an object with a type, and a value or children.
`Tree.walk` finds the text nodes in document order, a node before its children, and looks at the tree
as it is when a node's turn comes: what is done with a text node may change the tree under the walk.
A node whose children cannot be listed, or a read-only text node that would change, ends the walk, and
what was done before stays done.
-/

namespace LineJoin

inductive TreeError where
  | notIterable (typeName : String)
  | readOnly (typeName : String)
  /-- A rule does not let its fields be set. -/
  | fixedField
  | valueNotText (typeName : String)
deriving DecidableEq, Repr

def TreeError.message : TreeError → String
  | notIterable t => "'" ++ t ++ "' object is not iterable"
  | readOnly t => "'" ++ t ++ "' object has no attribute 'value'"
  | fixedField => "cannot assign to field 'value'"
  | valueNotText t => "Node value must be a string, got " ++ t

namespace Value

/-- What a node has under a name: an entry of a mapping or a field of an object. -/
def part : Value → String → Value
  | dict entries, name => Entries.named entries name
  | frozen entries, name => Entries.named entries name
  | object fields, name => (fields.lookup name).getD .null
  | shared _ v, name => v.part name
  | _, _ => .null

def putField (name : String) (value : Value) : List (String × Value) → List (String × Value)
  | [] => [(name, value)]
  | f :: rest => if f.1 = name then (name, value) :: rest else f :: putField name value rest

/-- Changes the value of the first key that passes a test. -/
def mapFirst {κ : Type} (p : κ → Bool) (g : Value → Value) : List (κ × Value) → List (κ × Value)
  | [] => []
  | e :: rest => if p e.1 then (e.1, g e.2) :: rest else e :: mapFirst p g rest

/-- Changes what a node has under a name, if it has the name. -/
def mapPart (name : String) (g : Value → Value) : Value → Value
  | dict entries => dict (mapFirst (·.sameKey (.str name)) g entries)
  | frozen entries => frozen (mapFirst (·.sameKey (.str name)) g entries)
  | object fields => object (mapFirst (· == name) g fields)
  | shared id v => shared id (v.mapPart name g)
  | v => v

end Value

namespace Tree

/-- The text of a node of the given type. -/
def nodeText? (nodeType : String) (node : Value) : Option String :=
  if (node.part "type").text? = some nodeType then (node.part "value").text? else none

/-- The value of a node, which has to be a text. -/
def nodeValue (node : Value) : Except TreeError String :=
  match (node.part "value").unshare with
  | .str s => .ok s
  | v => .error (.valueNotText v.typeName)

/-- Why the value of a node cannot be set, if so. -/
def fixed? : Value → Option TreeError
  | .dict _ | .object _ => none
  | .rule _ => some .fixedField
  | .shared _ v => fixed? v
  | v => some (.readOnly v.typeName)

def putValue (value : Value) : Value → Value
  | .dict entries => .dict (Entries.putNamed entries "value" value)
  | .object fields => .object (Value.putField "value" value fields)
  | .shared id v => .shared id (putValue value v)
  | v => v

/-- A node with another value. -/
def setNodeValue (value node : Value) : Except TreeError Value :=
  match fixed? node with
  | some e => .error e
  | none => .ok (putValue value node)

/-- What iterating over a value gives. -/
def members : Value → Except TreeError (List Value)
  | .list items | .tuple items | .set items => .ok items
  | .dict entries | .frozen entries => .ok (entries.map (·.1))
  | .str s => .ok (s.toList.map fun c => .str (String.singleton c))
  | .bytes data => .ok (data.map fun b => .int b.toNat)
  | .shared _ v => members v
  | v => .error (.notIterable v.typeName)

/-- The same values under other keys. -/
def putKeys (keys : List Value) (entries : List (Value × Value)) : List (Value × Value) :=
  List.zipWith (fun key e => (key, e.2)) keys entries

/-- A collection with other members in place of its own. The characters of a text and the bytes of
binary data cannot be other ones. -/
def putMembers (nodes : List Value) : Value → Value
  | .list _ => .list nodes
  | .tuple _ => .tuple nodes
  | .set _ => .set nodes
  | .dict entries => .dict (putKeys nodes entries)
  | .frozen entries => .frozen (putKeys nodes entries)
  | .shared id v => .shared id (putMembers nodes v)
  | v => v

/-- The children of a node. What does not count stands for none. -/
def children (node : Value) : Except TreeError (List Value) :=
  let collection := node.part "children"
  if collection.truthy then members collection else .ok []

/-- The children of a node as far as they can be listed. -/
def childList (node : Value) : List Value :=
  match children node with
  | .ok nodes => nodes
  | .error _ => []

/-- A node with other children in place of its own. -/
def putChildren (nodes : List Value) (node : Value) : Value :=
  node.mapPart "children" (putMembers nodes)

mutual
/-- How many nodes a tree has. -/
def size : Value → Nat
  | .dict entries | .frozen entries => 1 + sizeOfEntries entries
  | .object fields => 1 + sizeOfFields fields
  | .shared _ v => size v
  | _ => 1

def sizeOfEntries : List (Value × Value) → Nat
  | [] => 0
  | (key, v) :: rest =>
    if key.sameKey (.str "children") then sizeOfMembers v else sizeOfEntries rest

def sizeOfFields : List (String × Value) → Nat
  | [] => 0
  | (name, v) :: rest => if name = "children" then sizeOfMembers v else sizeOfFields rest

def sizeOfMembers : Value → Nat
  | .list items | .tuple items | .set items => sizeOfAll items
  | .dict entries | .frozen entries => sizeOfKeys entries
  | .str s => s.length
  | .bytes data => data.length
  | .shared _ v => sizeOfMembers v
  | _ => 0

def sizeOfAll : List Value → Nat
  | [] => 0
  | node :: rest => size node + sizeOfAll rest

def sizeOfKeys : List (Value × Value) → Nat
  | [] => 0
  | (key, _) :: rest => size key + sizeOfKeys rest
end

/-- Where a node stands in a tree: the numbers of the children on the way to it. -/
abbrev Place := List Nat

/-- The node at a place. Where no node stands there is nothing. -/
def nodeAt : Place → Value → Value
  | [], node => node
  | i :: p, node => nodeAt p ((childList node).getD i .null)

def changeAt : Place → (Value → Value) → Value → Value
  | [], g, node => g node
  | i :: p, g, node => putChildren ((childList node).modify i (changeAt p g)) node

/-- What is done with a text node: what it adds to a result, and the new text if it gets one. -/
abbrev Visit (σ : Type) := Value → String → σ → Except TreeError (σ × Option String)

/-- Does something with a node if it is a text node of the type. -/
def visit {σ : Type} (nodeType : String) (act : Visit σ) (node : Value) (result : σ) :
    Except TreeError (σ × Option String) :=
  match nodeText? nodeType node with
  | none => .ok (result, none)
  | some s => act node s result

def putText (change : Option String) (node : Value) : Value :=
  match change with
  | none => node
  | some s => putValue (.str s) node

def putTextAt (p : Place) (change : Option String) (tree : Value) : Value :=
  match change with
  | none => tree
  | some s => changeAt p (putValue (.str s)) tree

/-- A node that is still to visit, and its place. -/
structure Pending where
  place : Place
  node : Value

/-- A walk under way: the tree as it is now, the result so far, and the error that ended it. -/
structure Walk (σ : Type) where
  tree : Value
  result : σ
  failure : Option TreeError := none

namespace Walk

variable {σ : Type}

/-- Visits one node. Its children are listed after the visit. -/
def step (nodeType : String) (act : Visit σ) (x : Pending) (w : Walk σ) : Walk σ × List Pending :=
  match visit nodeType act x.node w.result with
  | .error e => ({ w with failure := some e }, [])
  | .ok (result, change) =>
    let tree := putTextAt x.place change w.tree
    match children (putText change x.node) with
    | .error e => ({ tree, result, failure := some e }, [])
    | .ok nodes => ({ tree, result }, nodes.mapIdx fun i node => ⟨x.place ++ [i], node⟩)

/-- Visits the nodes that are left, the first one and what is below it before the others, for so many
steps at most. -/
def run (nodeType : String) (act : Visit σ) : Nat → List Pending → Walk σ → Walk σ
  | n + 1, x :: pending, w =>
    let (w, below) := w.step nodeType act x
    match w.failure with
    | some _ => w
    | none => run nodeType act n (below ++ pending) w
  | _, _, w => w

end Walk

/-- Does something with each text node of a tree, one step for each node. -/
def walk {σ : Type} (nodeType : String) (act : Visit σ) (tree : Value) (result : σ) : Walk σ :=
  Walk.run nodeType act (size tree) [⟨[], tree⟩] { tree, result }

/-- How many text nodes were visited and how many of them changed. -/
structure Tally where
  visited : Nat := 0
  changed : Nat := 0
deriving DecidableEq, Repr

/-- Puts another text into a node if it differs. -/
def rewriteVisit (f : String → String) : Visit Tally := fun node s t =>
  if f s = s then .ok ({ t with visited := t.visited + 1 }, none)
  else match fixed? node with
    | some e => .error e
    | none => .ok (⟨t.visited + 1, t.changed + 1⟩, some (f s))

/-- Changes the texts of all text nodes of a tree. -/
def rewriteWalk (f : String → String) (tree : Value) : Walk Tally :=
  walk "text" (rewriteVisit f) tree {}

/-- The nodes of a tree whose type is the given one and whose value is a text, in document order. -/
def textNodes (nodeType : String) (tree : Value) : Except TreeError (List Value) :=
  let w := walk nodeType (fun node _ nodes => .ok (node :: nodes, none)) tree []
  match w.failure with
  | some e => .error e
  | none => .ok w.result.reverse

/-- The texts of the text nodes of a tree. -/
def texts (nodeType : String) (tree : Value) : Except TreeError (List String) := do
  return (← textNodes nodeType tree).filterMap (nodeText? nodeType)

def textNode (text : String) : Value :=
  .dict [(.str "type", .str "text"), (.str "value", .str text)]

def parent (nodeType : String) (children : List Value) : Value :=
  .dict [(.str "type", .str nodeType), (.str "children", .list children)]

def paragraph (children : List Value) : Value := parent "paragraph" children

def root (children : List Value) : Value := parent "root" children

end Tree

inductive TreeRewriteError where
  | rewrite (e : RewriteError)
  | tree (e : TreeError)

def TreeRewriteError.message : TreeRewriteError → String
  | rewrite e => e.message
  | tree e => e.message

namespace Tree

def report (t : Tally) (rules : Nat) : String :=
  "Removed CJK line breaks: " ++ natText t.changed ++ " of " ++ natText t.visited ++
    " text nodes changed (" ++ natText rules ++ " rules)"

/-- A tree after a run, whether the run succeeded, and what it reported. -/
structure Outcome where
  tree : Value
  result : Except TreeRewriteError Unit
  records : List Record

/-- What a walk comes to after the records from before it, with the number of rules. -/
def outcomeOf (records : List Record) (rules : Nat) (w : Walk Tally) : Outcome :=
  match w.failure with
  | some e => ⟨w.tree, .error (.tree e), records⟩
  | none => ⟨w.tree, .ok (), records ++ [⟨.debug, .rewriting, report w.result rules, false⟩]⟩

/-- Removes line breaks from a tree. No node is touched unless all rules make patterns. -/
def removeBreaks (patterns : Logged RewriteError (List Pattern)) (tree : Value) : Outcome :=
  match patterns.outcome with
  | (.error e, records) => ⟨tree, .error (.rewrite e), records⟩
  | (.ok patterns, records) =>
    outcomeOf records patterns.length (rewriteWalk (rewriteString patterns) tree)

end Tree

end LineJoin
