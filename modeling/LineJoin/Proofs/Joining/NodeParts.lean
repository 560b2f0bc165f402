import LineJoin.Joining.Tree

/-!
# Parts of nodes

A node has parts under names: the entries of a mapping or the fields of an object. What changes a part
leaves the parts under other names as they are.
-/

namespace LineJoin

namespace Value

section First

variable {κ : Type} {p q : κ → Bool} {g h : Value → Value} {entries : List (κ × Value)}

/-- The value of the first key that passes a test. -/
def firstOf? (p : κ → Bool) (entries : List (κ × Value)) : Option Value :=
  (entries.find? fun e => p e.1).map (·.2)

theorem firstOf?_cons (p : κ → Bool) (e : κ × Value) (rest : List (κ × Value)) :
    firstOf? p (e :: rest) = if p e.1 then some e.2 else firstOf? p rest := by
  rw [firstOf?, List.find?_cons]
  cases p e.1 <;> rfl

theorem firstOf?_mapFirst (p : κ → Bool) (g : Value → Value) (entries : List (κ × Value)) :
    firstOf? p (mapFirst p g entries) = (firstOf? p entries).map g := by
  induction entries with
  | nil => rfl
  | cons e rest ih =>
    rw [mapFirst, firstOf?_cons]
    by_cases he : p e.1
    · rw [if_pos he, firstOf?_cons, if_pos he, if_pos he, Option.map_some]
    · rw [if_neg he, firstOf?_cons, if_neg he, if_neg he, ih]

theorem firstOf?_mapFirst_of_apart (hpq : ∀ k, p k = true → q k = false) (g : Value → Value)
    (entries : List (κ × Value)) : firstOf? q (mapFirst p g entries) = firstOf? q entries := by
  induction entries with
  | nil => rfl
  | cons e rest ih =>
    rw [mapFirst, firstOf?_cons]
    by_cases he : p e.1
    · rw [if_pos he, firstOf?_cons, hpq e.1 he]
      rfl
    · rw [if_neg he, firstOf?_cons, ih]

theorem mapFirst_mapFirst (p : κ → Bool) (g h : Value → Value) (entries : List (κ × Value)) :
    mapFirst p g (mapFirst p h entries) = mapFirst p (g ∘ h) entries := by
  induction entries with
  | nil => rfl
  | cons e rest ih =>
    rw [mapFirst, mapFirst]
    by_cases he : p e.1
    · rw [if_pos he, if_pos he, mapFirst, if_pos he]
      rfl
    · rw [if_neg he, if_neg he, mapFirst, if_neg he, ih]

theorem mapFirst_congr (hgh : ∀ v, firstOf? p entries = some v → g v = h v) :
    mapFirst p g entries = mapFirst p h entries := by
  induction entries with
  | nil => rfl
  | cons e rest ih =>
    rw [mapFirst, mapFirst]
    by_cases he : p e.1
    · rw [if_pos he, if_pos he, hgh e.2 (by rw [firstOf?_cons, if_pos he])]
    · rw [if_neg he, if_neg he, ih (fun v hv => hgh v (by rw [firstOf?_cons, if_neg he, hv]))]

theorem mapFirst_id (p : κ → Bool) (entries : List (κ × Value)) :
    mapFirst p id entries = entries := by
  induction entries with
  | nil => rfl
  | cons e rest ih =>
    rw [mapFirst, ih]
    exact ite_self _

/-- Puts a value where a key passes a test, and under a key of its own if none does. -/
def putFirst (p : κ → Bool) (key : κ) (v : Value) : List (κ × Value) → List (κ × Value)
  | [] => [(key, v)]
  | e :: rest => if p e.1 then (e.1, v) :: rest else e :: putFirst p key v rest

theorem firstOf?_putFirst {key : κ} (hkey : p key = true) (v : Value)
    (entries : List (κ × Value)) : firstOf? p (putFirst p key v entries) = some v := by
  induction entries with
  | nil => rw [putFirst, firstOf?_cons, if_pos hkey]
  | cons e rest ih =>
    rw [putFirst]
    by_cases he : p e.1
    · rw [if_pos he, firstOf?_cons, if_pos he]
    · rw [if_neg he, firstOf?_cons, if_neg he, ih]

theorem firstOf?_putFirst_of_apart (hpq : ∀ k, p k = true → q k = false) {key : κ}
    (hkey : p key = true) (v : Value) (entries : List (κ × Value)) :
    firstOf? q (putFirst p key v entries) = firstOf? q entries := by
  induction entries with
  | nil =>
    rw [putFirst, firstOf?_cons, hpq key hkey]
    rfl
  | cons e rest ih =>
    rw [putFirst, firstOf?_cons]
    by_cases he : p e.1
    · rw [if_pos he, firstOf?_cons, hpq e.1 he]
      rfl
    · rw [if_neg he, firstOf?_cons, ih]

theorem mapFirst_putFirst (hpq : ∀ k, p k = true → q k = false) {key : κ} (hkey : p key = true)
    (g : Value → Value) (v : Value) (entries : List (κ × Value)) :
    mapFirst q g (putFirst p key v entries) = putFirst p key v (mapFirst q g entries) := by
  induction entries with
  | nil => simp [putFirst, mapFirst, hpq key hkey]
  | cons e rest ih =>
    by_cases hp : p e.1
    · have hq : ¬q e.1 = true := by
        rw [hpq e.1 hp]
        exact Bool.false_ne_true
      simp only [mapFirst, putFirst, if_pos hp, if_neg hq]
    · by_cases hq : q e.1
      · simp only [mapFirst, putFirst, if_pos hq, if_neg hp]
      · simp only [mapFirst, putFirst, if_neg hp, if_neg hq, ih]

end First

section Names

variable {name other : String}

theorem sameKey_str : ∀ (key : Value) (name : String),
    key.sameKey (.str name) = (key.text? == some name)
  | .shared _ v, name => by
    rw [sameKey, text?]
    exact sameKey_str v name
  | .str s, name => by
    rw [sameKey, text?, text?]
    exact Bool.beq_comm
  | .null, _ | .bool _, _ | .int _, _ | .float _, _ | .bytes _, _ | .list _, _ | .tuple _, _
  | .set _, _ | .dict _, _ | .frozen _, _ | .object _, _ | .rule _, _ | .day _, _
  | .moment _, _ => by rfl

theorem sameKey_apart (h : name ≠ other) (key : Value) (hkey : key.sameKey (.str name) = true) :
    key.sameKey (.str other) = false := by
  rw [sameKey_str, beq_iff_eq] at hkey
  rw [sameKey_str, hkey, beq_eq_false_iff_ne]
  exact fun heq => h (Option.some.inj heq)

theorem name_apart (h : name ≠ other) (key : String) (hkey : (key == name) = true) :
    (key == other) = false := by
  rw [beq_iff_eq] at hkey
  rw [hkey, beq_eq_false_iff_ne]
  exact h

theorem lookup_eq_firstOf? (name : String) (fields : List (String × Value)) :
    fields.lookup name = firstOf? (· == name) fields := by
  induction fields with
  | nil => rfl
  | cons f rest ih =>
    rw [List.lookup_cons, firstOf?_cons, ih, Bool.beq_comm]
    cases f.1 == name <;> rfl

theorem put_eq_putFirst (key value : Value) (entries : Entries) :
    Entries.put key value entries = putFirst (·.sameKey key) key value entries := by
  induction entries with
  | nil => rfl
  | cons e rest ih => rw [Entries.put, putFirst, ih]

theorem putField_eq_putFirst (name : String) (value : Value) (fields : List (String × Value)) :
    putField name value fields = putFirst (· == name) name value fields := by
  induction fields with
  | nil => rfl
  | cons f rest ih =>
    rw [putField, putFirst, ih]
    by_cases hf : f.1 = name
    · rw [if_pos hf, if_pos (beq_iff_eq.mpr hf), hf]
    · rw [if_neg hf, if_neg (fun h => hf (beq_iff_eq.mp h))]

theorem part_dict (entries : Entries) (name : String) :
    (dict entries).part name = (firstOf? (·.sameKey (.str name)) entries).getD .null := rfl

theorem part_frozen (entries : Entries) (name : String) :
    (frozen entries).part name = (firstOf? (·.sameKey (.str name)) entries).getD .null := rfl

theorem part_object (fields : List (String × Value)) (name : String) :
    (object fields).part name = (firstOf? (· == name) fields).getD .null := by
  rw [part, lookup_eq_firstOf?]

end Names

end Value

namespace Tree

open Value

/-- A node is a mapping, an object or a shared node, or else it has no parts and keeps none. -/
theorem node_induction {P : Value → Prop} (dict : ∀ entries, P (.dict entries))
    (frozen : ∀ entries, P (.frozen entries)) (object : ∀ fields, P (.object fields))
    (shared : ∀ id v, P v → P (.shared id v))
    (other : ∀ v : Value, (∀ name, v.part name = .null) → (∀ name g, v.mapPart name g = v) →
      (∀ value, putValue value v = v) → fixed? v ≠ none → P v) : ∀ v : Value, P v
  | .dict entries => dict entries
  | .frozen entries => frozen entries
  | .object fields => object fields
  | .shared id v => shared id v (node_induction dict frozen object shared other v)
  | .null | .bool _ | .int _ | .float _ | .str _ | .bytes _ | .list _ | .tuple _ | .set _
  | .rule _ | .day _ | .moment _ =>
    other _ (fun _ => rfl) (fun _ _ => rfl) (fun _ => rfl) (Option.some_ne_none _)

section Parts

variable {name other : String} {g h : Value → Value}

theorem part_mapPart (hg : g .null = .null) (name : String) (node : Value) :
    (node.mapPart name g).part name = g (node.part name) := by
  have hgetD (v : Option Value) : (v.map g).getD .null = g (v.getD .null) := by
    cases v with
    | none => exact hg.symm
    | some v => rfl
  induction node using node_induction with
  | dict entries => rw [mapPart, part_dict, part_dict, firstOf?_mapFirst, hgetD]
  | frozen entries => rw [mapPart, part_frozen, part_frozen, firstOf?_mapFirst, hgetD]
  | object fields => rw [mapPart, part_object, part_object, firstOf?_mapFirst, hgetD]
  | shared id v ih => exact ih
  | other v hpart hmap => rw [hmap, hpart, hg]

theorem part_mapPart_of_ne (hne : name ≠ other) (g : Value → Value) (node : Value) :
    (node.mapPart name g).part other = node.part other := by
  induction node using node_induction with
  | dict entries =>
    rw [mapPart, part_dict, part_dict, firstOf?_mapFirst_of_apart (sameKey_apart hne)]
  | frozen entries =>
    rw [mapPart, part_frozen, part_frozen, firstOf?_mapFirst_of_apart (sameKey_apart hne)]
  | object fields =>
    rw [mapPart, part_object, part_object, firstOf?_mapFirst_of_apart (name_apart hne)]
  | shared id v ih => exact ih
  | other v _ hmap => rw [hmap]

theorem mapPart_mapPart (name : String) (g h : Value → Value) (node : Value) :
    (node.mapPart name h).mapPart name g = node.mapPart name (g ∘ h) := by
  induction node using node_induction with
  | dict entries => simp only [mapPart, mapFirst_mapFirst]
  | frozen entries => simp only [mapPart, mapFirst_mapFirst]
  | object fields => simp only [mapPart, mapFirst_mapFirst]
  | shared id v ih => simp only [mapPart, ih]
  | other v _ hmap => rw [hmap, hmap, hmap]

/-- Only what the part is now counts for a change of it. -/
theorem mapPart_congr {node : Value} (hgh : g (node.part name) = h (node.part name)) :
    node.mapPart name g = node.mapPart name h := by
  induction node using node_induction with
  | dict entries =>
    rw [mapPart, mapPart, mapFirst_congr]
    intro v hv
    rwa [part_dict, hv] at hgh
  | frozen entries =>
    rw [mapPart, mapPart, mapFirst_congr]
    intro v hv
    rwa [part_frozen, hv] at hgh
  | object fields =>
    rw [mapPart, mapPart, mapFirst_congr]
    intro v hv
    rwa [part_object, hv] at hgh
  | shared id v ih => simp only [mapPart, ih hgh]
  | other v _ hmap => rw [hmap, hmap]

theorem mapPart_id (name : String) (node : Value) : node.mapPart name id = node := by
  induction node using node_induction with
  | dict entries => rw [mapPart, mapFirst_id]
  | frozen entries => rw [mapPart, mapFirst_id]
  | object fields => rw [mapPart, mapFirst_id]
  | shared id v ih => rw [mapPart, ih]
  | other v _ hmap => rw [hmap]

theorem sameKey_value : (Value.str "value").sameKey (.str "value") = true := by
  rw [sameKey_str]
  exact BEq.rfl

theorem part_putValue_of_ne (hne : "value" ≠ name) (value node : Value) :
    (putValue value node).part name = node.part name := by
  induction node using node_induction with
  | dict entries =>
    rw [putValue, Entries.putNamed, put_eq_putFirst, part_dict, part_dict,
      firstOf?_putFirst_of_apart (sameKey_apart hne) sameKey_value]
  | frozen entries => rfl
  | object fields =>
    rw [putValue, putField_eq_putFirst, part_object, part_object,
      firstOf?_putFirst_of_apart (name_apart hne) (beq_self_eq_true "value")]
  | shared id v ih => exact ih
  | other v _ _ hput => rw [hput]

theorem part_putValue (value : Value) {node : Value} (hfixed : fixed? node = none) :
    (putValue value node).part "value" = value := by
  induction node using node_induction with
  | dict entries =>
    rw [putValue, Entries.putNamed, put_eq_putFirst, part_dict,
      firstOf?_putFirst (p := fun key : Value => key.sameKey (.str "value")) sameKey_value,
      Option.getD_some]
  | frozen entries => cases hfixed
  | object fields =>
    rw [putValue, putField_eq_putFirst, part_object,
      firstOf?_putFirst (p := (· == "value")) (beq_self_eq_true "value"), Option.getD_some]
  | shared id v ih => exact ih hfixed
  | other v _ _ _ hv => exact absurd hfixed hv

theorem mapPart_putValue (hne : "value" ≠ name) (g : Value → Value) (value node : Value) :
    (putValue value node).mapPart name g = putValue value (node.mapPart name g) := by
  induction node using node_induction with
  | dict entries =>
    simp only [mapPart, putValue, Entries.putNamed, put_eq_putFirst]
    rw [mapFirst_putFirst (sameKey_apart hne) sameKey_value]
  | frozen entries => rfl
  | object fields =>
    simp only [mapPart, putValue, putField_eq_putFirst]
    rw [mapFirst_putFirst (name_apart hne) (beq_self_eq_true "value")]
  | shared id v ih => rw [putValue, mapPart, ih, mapPart, putValue]
  | other v _ hmap hput => rw [hput, hmap, hput]

end Parts

end Tree

end LineJoin
