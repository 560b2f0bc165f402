import LineJoin.Value.Basic

/-!
# Equality of values

Equality of values can be decided, so that what reading a text gives can be compared with the value
that is expected.
-/

namespace LineJoin

namespace Value

mutual
/-- Whether two values are equal, with their marks. -/
def equals : Value → Value → Bool
  | .null, w => if let .null := w then true else false
  | .bool a, w => if let .bool b := w then a == b else false
  | .int a, w => if let .int b := w then a == b else false
  | .float a, w => if let .float b := w then a == b else false
  | .str a, w => if let .str b := w then a == b else false
  | .bytes a, w => if let .bytes b := w then a == b else false
  | .list a, w => if let .list b := w then equalsAll a b else false
  | .tuple a, w => if let .tuple b := w then equalsAll a b else false
  | .set a, w => if let .set b := w then equalsAll a b else false
  | .dict a, w => if let .dict b := w then equalsEntries a b else false
  | .frozen a, w => if let .frozen b := w then equalsEntries a b else false
  | .object a, w => if let .object b := w then equalsFields a b else false
  | .rule a, w => if let .rule b := w then a == b else false
  | .day a, w => if let .day b := w then a == b else false
  | .moment a, w => if let .moment b := w then a == b else false
  | .shared a v, w => if let .shared b w := w then a == b && equals v w else false

def equalsAll : List Value → List Value → Bool
  | [], ws => ws.isEmpty
  | v :: rest, ws => if let w :: more := ws then equals v w && equalsAll rest more else false

def equalsEntry : Value × Value → Value × Value → Bool
  | (key, v), f => equals key f.1 && equals v f.2

def equalsEntries : List (Value × Value) → List (Value × Value) → Bool
  | [], fs => fs.isEmpty
  | e :: rest, fs =>
    if let f :: more := fs then equalsEntry e f && equalsEntries rest more else false

def equalsField : String × Value → String × Value → Bool
  | (name, v), g => name == g.1 && equals v g.2

def equalsFields : List (String × Value) → List (String × Value) → Bool
  | [], gs => gs.isEmpty
  | f :: rest, gs =>
    if let g :: more := gs then equalsField f g && equalsFields rest more else false
end

mutual
theorem equals_iff : ∀ v w : Value, v.equals w = true ↔ v = w
  | .list a, w => by cases w <;> simp [equals, equalsAll_iff a]
  | .tuple a, w => by cases w <;> simp [equals, equalsAll_iff a]
  | .set a, w => by cases w <;> simp [equals, equalsAll_iff a]
  | .dict a, w => by cases w <;> simp [equals, equalsEntries_iff a]
  | .frozen a, w => by cases w <;> simp [equals, equalsEntries_iff a]
  | .object a, w => by cases w <;> simp [equals, equalsFields_iff a]
  | .shared _ v, w => by cases w <;> simp [equals, equals_iff v]
  | .null, w | .bool _, w | .int _, w | .float _, w | .str _, w | .bytes _, w | .rule _, w
  | .day _, w | .moment _, w => by cases w <;> simp [equals]

theorem equalsAll_iff : ∀ vs ws : List Value, equalsAll vs ws = true ↔ vs = ws
  | [], ws => by cases ws <;> simp [equalsAll]
  | v :: rest, ws => by cases ws <;> simp [equalsAll, equals_iff v, equalsAll_iff rest]

theorem equalsEntry_iff : ∀ e f : Value × Value, equalsEntry e f = true ↔ e = f
  | (key, v), (other, w) => by simp [equalsEntry, equals_iff key, equals_iff v]

theorem equalsEntries_iff : ∀ es fs : List (Value × Value), equalsEntries es fs = true ↔ es = fs
  | [], fs => by cases fs <;> simp [equalsEntries]
  | e :: rest, fs => by
    cases fs <;> simp [equalsEntries, equalsEntry_iff e, equalsEntries_iff rest]

theorem equalsField_iff : ∀ f g : String × Value, equalsField f g = true ↔ f = g
  | (name, v), (other, w) => by simp [equalsField, equals_iff v]

theorem equalsFields_iff : ∀ fs gs : List (String × Value), equalsFields fs gs = true ↔ fs = gs
  | [], gs => by cases gs <;> simp [equalsFields]
  | f :: rest, gs => by
    cases gs <;> simp [equalsFields, equalsField_iff f, equalsFields_iff rest]
end

instance : DecidableEq Value := fun v w => decidable_of_iff _ (equals_iff v w)

end Value

end LineJoin
