import LineJoin.Rule
import LineJoin.Value.Calendar

/-!
# Values

Options, configurations and document trees are given as values: scalars, lists, and mappings that
keep their order. Mapping keys are compared as values, where `1`, `1.0` and `true` are one key.
`Value.shared` marks an object that occurs at several places of a loaded file; apart from how the
file is written again it is the value inside.
-/

namespace LineJoin

inductive Value where
  | null
  | bool (b : Bool)
  | int (n : Int)
  | float (x : Binary64)
  | str (s : String)
  | bytes (data : List UInt8)
  | list (items : List Value)
  | tuple (items : List Value)
  | set (items : List Value)
  | dict (entries : List (Value × Value))
  /-- A mapping that cannot be changed. -/
  | frozen (entries : List (Value × Value))
  /-- An object with named fields, which is no mapping. -/
  | object (fields : List (String × Value))
  | rule (r : Rule)
  | day (d : Day)
  | moment (m : Moment)
  | shared (id : Nat) (value : Value)
deriving Inhabited

abbrev Entries := List (Value × Value)

namespace Value

/-- The value without the mark of a shared object. -/
def unshare : Value → Value
  | shared _ v => v.unshare
  | v => v

/-- How messages name the type of a value. -/
def typeName : Value → String
  | null => "NoneType"
  | bool _ => "bool"
  | int _ => "int"
  | float _ => "float"
  | str _ => "str"
  | bytes _ => "bytes"
  | list _ => "list"
  | tuple _ => "tuple"
  | set _ => "set"
  | dict _ => "dict"
  | frozen _ => "mappingproxy"
  | object _ => "SimpleNamespace"
  | rule _ => "BreakRule"
  | day _ => "date"
  | moment _ => "datetime"
  | shared _ v => v.typeName

/-- Zero, the empty text and empty collections do not count. -/
def truthy : Value → Bool
  | null => false
  | bool b => b
  | int n => n != 0
  | float x => !x.sameInt 0
  | str s => s != ""
  | bytes data => !data.isEmpty
  | list items | tuple items | set items => !items.isEmpty
  | dict entries | frozen entries => !entries.isEmpty
  | object _ | rule _ | day _ | moment _ => true
  | shared _ v => v.truthy

/-- The entries of a mapping of either kind. -/
def mapping? : Value → Option Entries
  | dict entries | frozen entries => some entries
  | shared _ v => v.mapping?
  | _ => none

/-- The entries of a mapping that can be changed. -/
def dict? : Value → Option Entries
  | dict entries => some entries
  | shared _ v => v.dict?
  | _ => none

def text? : Value → Option String
  | str s => some s
  | shared _ v => v.text?
  | _ => none

inductive Number where
  | int (n : Int)
  | float (x : Binary64)

/-- Whether two numbers are the same key. A NaN is equal to no number but is found by itself; the
objects that are NaN are told apart by their bits. -/
def Number.same : Number → Number → Bool
  | .int a, .int b => a == b
  | .int a, .float y => y.sameInt a
  | .float x, .int b => x.sameInt b
  | .float x, .float y => x == y || x.same y

def Number.le : Number → Number → Bool
  | .int a, .int b => a ≤ b
  | .int a, .float y => y.geInt a
  | .float x, .int b => x.leInt b
  | .float x, .float y => x.le y

/-- Truth values count as zero and one. -/
def number? : Value → Option Number
  | bool b => some (.int (if b then 1 else 0))
  | int n => some (.int n)
  | float x => some (.float x)
  | shared _ v => v.number?
  | _ => none

mutual
/-- Whether two values are the same mapping key. -/
def sameKey : Value → Value → Bool
  | shared _ v, w => sameKey v w
  | str a, w => w.text? == some a
  | null, w => match w.unshare with
    | null => true
    | _ => false
  | bytes a, w => match w.unshare with
    | bytes b => a == b
    | _ => false
  | rule a, w => match w.unshare with
    | rule b => a == b
    | _ => false
  | day a, w => match w.unshare with
    | day b => a == b
    | _ => false
  | moment a, w => match w.unshare with
    | moment b => a.same b
    | _ => false
  | tuple a, w => match w.unshare with
    | tuple b => sameKeys a b
    | _ => false
  | v, w => match v.number?, w.number? with
    | some a, some b => a.same b
    | _, _ => false

def sameKeys : List Value → List Value → Bool
  | [], [] => true
  | v :: vs, w :: ws => sameKey v w && sameKeys vs ws
  | _, _ => false
end

/-- Values that can be mapping keys. -/
def isKey : Value → Bool
  | list _ | set _ | dict _ | frozen _ | object _ => false
  | shared _ v => v.isKey
  | _ => true

end Value

namespace Entries

def get? (entries : Entries) (key : Value) : Option Value :=
  (entries.find? fun e => e.1.sameKey key).map (·.2)

/-- The value under a text key. -/
def named? (entries : Entries) (name : String) : Option Value := get? entries (.str name)

/-- The value under a text key, absent and null being the same. -/
def named (entries : Entries) (name : String) : Value := (named? entries name).getD .null

/-- Puts a value under a key. A key that is already there keeps its place and its own spelling. -/
def put (key value : Value) : Entries → Entries
  | [] => [(key, value)]
  | e :: rest => if e.1.sameKey key then (e.1, value) :: rest else e :: put key value rest

def putNamed (entries : Entries) (name : String) (value : Value) : Entries :=
  put (.str name) value entries

/-- The mapping made by putting pairs one after the other. -/
def ofPairs (pairs : List (Value × Value)) : Entries :=
  pairs.foldl (fun entries p => put p.1 p.2 entries) []

def has (entries : Entries) (key : Value) : Bool := entries.any fun e => e.1.sameKey key

end Entries

end LineJoin
