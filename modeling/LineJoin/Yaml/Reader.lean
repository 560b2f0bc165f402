import LineJoin.Yaml.Node.Reader
import LineJoin.Yaml.Scalar

/-!
# Reading YAML

`Yaml.read` gives the value of a text that holds one document. Values are built level by level, so of
several faults the one at the least depth is reported, and of these the first.
-/

namespace LineJoin.Yaml

/-- A value with the fault that is met first, if any, and the depth at which it is met. -/
structure Built where
  value : Value
  fault : Option (Nat × Fault)

namespace Built

def of (v : Value) : Built := ⟨v, none⟩

def failed (depth : Nat) (f : Fault) : Built := ⟨.null, some (depth, f)⟩

/-- Of two faults the one at the lesser depth, or else the first. -/
def earlier : Option (Nat × Fault) → Option (Nat × Fault) → Option (Nat × Fault)
  | none, b => b
  | a, none => a
  | some a, some b => if b.1 < a.1 then some b else some a

def ofList (items : List Value × Option (Nat × Fault)) : Built := ⟨.list items.1, items.2⟩

def map (f : Value → Value) (b : Built) : Built := ⟨f b.value, b.fault⟩

end Built

namespace Node

def isScalarTag : Tag → Bool
  | .null | .bool | .int | .float | .str | .binary | .timestamp => true
  | _ => false

def inOwnContext (c : Context) (mark : Mark) (p : Problem) : Fault := .inside c (some mark) p mark

/-- A node whose kind does not fit its tag. Faults in the content of a collection are met one level
deeper than the collection itself. -/
def misplaced (depth : Nat) (n : NodeInfo) (kind : String) : Built :=
  let expected (wanted : String) : Fault := .found (.expectedNode wanted kind) n.mark
  match n.tag with
  | .seq => ⟨.list [], some (depth + 1, expected "sequence node")⟩
  | .map | .set => ⟨.dict [], some (depth + 1, expected "mapping node")⟩
  | .omap =>
    ⟨.list [], some (depth + 1, inOwnContext .orderedMap n.mark (.expectedNode "sequence" kind))⟩
  | .pairs =>
    ⟨.list [], some (depth + 1, inOwnContext .pairs n.mark (.expectedNode "sequence" kind))⟩
  | .merge | .value | .other _ => .failed depth (.found (.unknownTag n.tag.text) n.mark)
  | _ => .failed depth (expected "scalar node")

def ofScalar (depth : Nat) (n : NodeInfo) (text : List Char) : Built :=
  match Scalar.value? n.tag n.mark text with
  | some (.ok v) => .of v
  | some (.error f) => .failed depth f
  | none => misplaced depth n "scalar"

/-- Marks a value that may occur at several places. Texts and numbers have no identity. -/
def identified (shared : Bool) (n : NodeInfo) : Value → Value
  | v =>
    if shared then
      match v with
      | .list _ | .dict _ | .set _ | .bytes _ | .day _ | .moment _ => .shared n.id v
      | v => v
    else v

mutual
/-- The text of a scalar, or of the default value of a mapping. -/
def scalarText? : Node → Option (List Char)
  | .scalar _ text => some text
  | .sequence _ _ => none
  | .mapping _ written _ _ => defaultText? written

def defaultText? : List (Node × Node) → Option (List Char)
  | [] => none
  | e :: rest => if e.1.tag == .value then entryText? e else defaultText? rest

def entryText? : Node × Node → Option (List Char)
  | (_, v) => scalarText? v
end

/-- Puts an entry before others. Its key has to be a value that can be one. -/
def consEntry (depth : Nat) (context mark : Mark) (key value : Built)
    (rest : List (Value × Value) × Option (Nat × Fault)) :
    List (Value × Value) × Option (Nat × Fault) :=
  let unhashable := if key.value.isKey then none
    else some (depth, Fault.inside .mapping (some context) .unhashableKey mark)
  ((key.value, value.value) :: rest.1,
    Built.earlier (Built.earlier (Built.earlier key.fault unhashable) value.fault) rest.2)

mutual
/-- The value of a node whose parent is at the given depth. -/
def build (shared : Bool) (depth : Nat) : Node → Built
  | .scalar n text => (ofScalar depth n text).map (identified (shared || n.anchored) n)
  | .sequence n items =>
    let shared := shared || n.anchored
    Built.map (identified shared n) (match n.tag with
    | .seq => .ofList (buildItems shared (depth + 1) items)
    | .omap => .ofList (buildPairs shared (depth + 1) .orderedMap n.mark items)
    | .pairs => .ofList (buildPairs shared (depth + 1) .pairs n.mark items)
    | _ => misplaced depth n "sequence")
  | .mapping n written merged fault =>
    let shared := shared || n.anchored
    let (entries, found) := buildEntries shared (depth + 1) n.mark merged
    let found := Built.earlier (fault.map fun f => (depth + 1, f)) found
    Built.map (identified shared n) (match n.tag with
    | .map => ⟨.dict (Entries.ofPairs entries), found⟩
    | .set => ⟨.set ((Entries.ofPairs entries).map (·.1)), found⟩
    | _ =>
      match isScalarTag n.tag, defaultText? written with
      | true, some text => ofScalar depth n text
      | _, _ => misplaced depth n "mapping")

def buildItems (shared : Bool) (depth : Nat) : List Node → List Value × Option (Nat × Fault)
  | [] => ([], none)
  | n :: rest =>
    let b := build shared depth n
    let (values, fault) := buildItems shared depth rest
    (b.value :: values, Built.earlier b.fault fault)

def buildEntries (shared : Bool) (depth : Nat) (mark : Mark) :
    List (Node × Node) → List (Value × Value) × Option (Nat × Fault)
  | [] => ([], none)
  | e :: rest =>
    let (key, value) := buildEntry shared depth e
    consEntry depth mark e.1.mark key value (buildEntries shared depth mark rest)

def buildEntry (shared : Bool) (depth : Nat) : Node × Node → Built × Built
  | (key, value) => (build shared depth key, build shared depth value)

/-- The items of an ordered mapping, each a mapping with one entry. -/
def buildPairs (shared : Bool) (depth : Nat) (context : Context) (mark : Mark) :
    List Node → List Value × Option (Nat × Fault)
  | [] => ([], none)
  | n :: rest =>
    let b := buildPair shared depth context mark n
    let (values, fault) := buildPairs shared depth context mark rest
    (b.value :: values, Built.earlier b.fault fault)

def buildPair (shared : Bool) (depth : Nat) (context : Context) (mark : Mark) : Node → Built
  | .mapping n written _ _ =>
    match buildWritten (shared || n.anchored) depth written with
    | [(key, value)] => ⟨.tuple [key.value, value.value], Built.earlier key.fault value.fault⟩
    | entries =>
      .failed depth (.inside context (some mark) (.itemCount entries.length) n.mark)
  | n =>
    .failed depth
      (.inside context (some mark) (.expectedNode "mapping of length 1" n.kind) n.mark)

def buildWritten (shared : Bool) (depth : Nat) : List (Node × Node) → List (Built × Built)
  | [] => []
  | e :: rest => buildEntry shared depth e :: buildWritten shared depth rest
end

def value (n : Node) : Except Fault Value :=
  let b := build false 0 n
  match b.fault with
  | some (_, f) => .error f
  | none => .ok b.value

end Node

/-- Characters that a text may hold. -/
def isAdmitted (c : Char) : Bool :=
  let n := c.toNat
  n == 9 || n == 10 || n == 13 || (32 ≤ n && n ≤ 126) || n == 0x85 || (0xA0 ≤ n && n ≤ 0xFFFD) ||
    0x10000 ≤ n

def unprintable? : Nat → List Char → Option Fault
  | _, [] => none
  | n, c :: rest => if isAdmitted c then unprintable? (n + 1) rest else some (.unprintable c n)

/-- The value of a text; null if it holds no document. -/
def read (text : List Char) : Except Fault Value := do
  if let some f := unprintable? 0 text then throw f
  match ← Node.read? text with
  | some n => n.value
  | none => return .null

end LineJoin.Yaml
