import LineJoin.Value.Display

/-!
# Values without marks

`plain` takes the marks of shared objects away, anywhere in a value. Only writing a value looks at
these marks: types, lookups and how a value is shown are the same without them.
-/

namespace LineJoin

namespace Value

mutual
/-- A value without the marks of shared objects in it. -/
def plain : Value → Value
  | .list items => .list (plainAll items)
  | .tuple items => .tuple (plainAll items)
  | .set items => .set (plainAll items)
  | .dict entries => .dict (plainEntries entries)
  | .frozen entries => .frozen (plainEntries entries)
  | .object fields => .object (plainFields fields)
  | .shared _ v => plain v
  | .null => .null
  | .bool b => .bool b
  | .int n => .int n
  | .float x => .float x
  | .str s => .str s
  | .bytes data => .bytes data
  | .rule r => .rule r
  | .day d => .day d
  | .moment m => .moment m

def plainAll : List Value → List Value
  | [] => []
  | v :: rest => plain v :: plainAll rest

def plainEntry : Value × Value → Value × Value
  | (key, v) => (plain key, plain v)

def plainEntries : List (Value × Value) → List (Value × Value)
  | [] => []
  | e :: rest => plainEntry e :: plainEntries rest

def plainField : String × Value → String × Value
  | (name, v) => (name, plain v)

def plainFields : List (String × Value) → List (String × Value)
  | [] => []
  | f :: rest => plainField f :: plainFields rest
end

theorem plainEntries_eq (entries : Entries) :
    plainEntries entries = entries.map fun e => (e.1.plain, e.2.plain) := by
  induction entries with
  | nil => rfl
  | cons e rest ih => rw [plainEntries, ih, List.map_cons, plainEntry]

mutual
theorem plain_plain : ∀ v : Value, v.plain.plain = v.plain
  | .list items | .tuple items | .set items => by rw [plain, plain, plainAll_plainAll items]
  | .dict entries | .frozen entries => by rw [plain, plain, plainEntries_plainEntries entries]
  | .object fields => by rw [plain, plain, plainFields_plainFields fields]
  | .shared _ v => by rw [plain, plain_plain v]
  | .null | .bool _ | .int _ | .float _ | .str _ | .bytes _ | .rule _ | .day _ | .moment _ => by
    rfl

theorem plainAll_plainAll : ∀ items : List Value, plainAll (plainAll items) = plainAll items
  | [] => by rfl
  | v :: rest => by rw [plainAll, plainAll, plain_plain v, plainAll_plainAll rest]

theorem plainEntries_plainEntries : ∀ entries : List (Value × Value),
    plainEntries (plainEntries entries) = plainEntries entries
  | [] => by rfl
  | (key, v) :: rest => by
    rw [plainEntries, plainEntry, plainEntries, plainEntry, plain_plain key, plain_plain v,
      plainEntries_plainEntries rest]

theorem plainFields_plainFields : ∀ fields : List (String × Value),
    plainFields (plainFields fields) = plainFields fields
  | [] => by rfl
  | (name, v) :: rest => by
    rw [plainFields, plainField, plainFields, plainField, plain_plain v,
      plainFields_plainFields rest]
end

section Views

theorem mapping?_of_dict? : ∀ {v : Value} {entries : Entries}, v.dict? = some entries →
    v.mapping? = some entries
  | .shared _ v, _, h => mapping?_of_dict? (v := v) h
  | .dict _, _, h => h

theorem unshare_of_dict? : ∀ {v : Value} {entries : Entries}, v.dict? = some entries →
    v.unshare = .dict entries
  | .shared _ v, _, h => unshare_of_dict? (v := v) h
  | .dict _, _, h => congrArg Value.dict (Option.some.inj h)

theorem unshare_of_text : ∀ {v : Value} {s : String}, v.text? = some s → v.unshare = .str s
  | .shared _ v, _, h => unshare_of_text (v := v) h
  | .str _, _, h => congrArg Value.str (Option.some.inj h)

theorem unshare_plain : ∀ v : Value, v.plain.unshare = v.plain
  | .shared _ v => by rw [plain, unshare_plain v]
  | .null | .bool _ | .int _ | .float _ | .str _ | .bytes _ | .list _ | .tuple _ | .set _
  | .dict _ | .frozen _ | .object _ | .rule _ | .day _ | .moment _ => by rfl

theorem typeName_unshare : ∀ v : Value, v.unshare.typeName = v.typeName
  | .shared _ v => typeName_unshare v
  | .null | .bool _ | .int _ | .float _ | .str _ | .bytes _ | .list _ | .tuple _ | .set _
  | .dict _ | .frozen _ | .object _ | .rule _ | .day _ | .moment _ => rfl

theorem mapping?_unshare : ∀ v : Value, v.unshare.mapping? = v.mapping?
  | .shared _ v => mapping?_unshare v
  | .null | .bool _ | .int _ | .float _ | .str _ | .bytes _ | .list _ | .tuple _ | .set _
  | .dict _ | .frozen _ | .object _ | .rule _ | .day _ | .moment _ => rfl

theorem text?_unshare : ∀ v : Value, v.unshare.text? = v.text?
  | .shared _ v => text?_unshare v
  | .null | .bool _ | .int _ | .float _ | .str _ | .bytes _ | .list _ | .tuple _ | .set _
  | .dict _ | .frozen _ | .object _ | .rule _ | .day _ | .moment _ => rfl

theorem plain_unshare : ∀ v : Value, v.unshare.plain = v.plain
  | .shared _ v => by rw [unshare, plain, plain_unshare v]
  | .null | .bool _ | .int _ | .float _ | .str _ | .bytes _ | .list _ | .tuple _ | .set _
  | .dict _ | .frozen _ | .object _ | .rule _ | .day _ | .moment _ => by rfl

theorem text?_plain : ∀ v : Value, v.plain.text? = v.text?
  | .shared _ v => by rw [plain, text?, text?_plain v]
  | .null | .bool _ | .int _ | .float _ | .str _ | .bytes _ | .list _ | .tuple _ | .set _
  | .dict _ | .frozen _ | .object _ | .rule _ | .day _ | .moment _ => by rfl

theorem plain_of_text : ∀ {v : Value} {s : String}, v.text? = some s → v.plain = .str s
  | .shared _ v, _, h => plain_of_text (v := v) h
  | .str _, _, h => congrArg Value.str (Option.some.inj h)

theorem number?_plain : ∀ v : Value, v.plain.number? = v.number?
  | .shared _ v => by rw [plain, number?, number?_plain v]
  | .null | .bool _ | .int _ | .float _ | .str _ | .bytes _ | .list _ | .tuple _ | .set _
  | .dict _ | .frozen _ | .object _ | .rule _ | .day _ | .moment _ => by rfl

theorem typeName_plain : ∀ v : Value, v.plain.typeName = v.typeName
  | .shared _ v => by rw [plain, typeName, typeName_plain v]
  | .null | .bool _ | .int _ | .float _ | .str _ | .bytes _ | .list _ | .tuple _ | .set _
  | .dict _ | .frozen _ | .object _ | .rule _ | .day _ | .moment _ => by rfl

theorem dict?_plain : ∀ v : Value, v.plain.dict? = v.dict?.map plainEntries
  | .shared _ v => by rw [plain, dict?, dict?_plain v]
  | .null | .bool _ | .int _ | .float _ | .str _ | .bytes _ | .list _ | .tuple _ | .set _
  | .dict _ | .frozen _ | .object _ | .rule _ | .day _ | .moment _ => by rfl

theorem plain_of_dict? : ∀ {v : Value} {entries : Entries}, v.dict? = some entries →
    v.plain = .dict (plainEntries entries)
  | .shared _ v, _, h => plain_of_dict? (v := v) h
  | .dict _, _, h => congrArg (Value.dict ∘ plainEntries) (Option.some.inj h)

theorem mapping?_plain : ∀ v : Value, v.plain.mapping? = v.mapping?.map plainEntries
  | .shared _ v => by rw [plain, mapping?, mapping?_plain v]
  | .null | .bool _ | .int _ | .float _ | .str _ | .bytes _ | .list _ | .tuple _ | .set _
  | .dict _ | .frozen _ | .object _ | .rule _ | .day _ | .moment _ => by rfl

theorem truthy_plain : ∀ v : Value, v.plain.truthy = v.truthy
  | .shared _ v => by rw [plain, truthy, truthy_plain v]
  | .list items | .tuple items | .set items => by
    cases items <;> rfl
  | .dict entries | .frozen entries => by
    cases entries <;> rfl
  | .null | .bool _ | .int _ | .float _ | .str _ | .bytes _ | .object _ | .rule _ | .day _
  | .moment _ => by rfl

theorem isEmpty_plainAll (items : List Value) : (plainAll items).isEmpty = items.isEmpty := by
  cases items <;> rfl

end Views

section Keys

mutual
theorem sameKey_plain_left : ∀ v w : Value, v.plain.sameKey w = v.sameKey w
  | .shared _ v, w => by
    rw [plain, sameKey]
    exact sameKey_plain_left v w
  | .tuple items, w => by
    rw [plain, sameKey, sameKey]
    split
    · exact sameKeys_plain_left items _
    · rfl
  | .null, _ | .bool _, _ | .int _, _ | .float _, _ | .str _, _ | .bytes _, _ | .list _, _
  | .set _, _ | .dict _, _ | .frozen _, _ | .object _, _ | .rule _, _ | .day _, _
  | .moment _, _ => by rfl

theorem sameKeys_plain_left : ∀ vs ws : List Value, sameKeys (plainAll vs) ws = sameKeys vs ws
  | [], _ => by rfl
  | _ :: _, [] => by rfl
  | v :: vs, w :: ws => by
    rw [plainAll, sameKeys, sameKeys, sameKey_plain_left v w, sameKeys_plain_left vs ws]
end

theorem exists_unmarked : ∀ v : Value,
    ∃ u : Value, v.unshare = u ∧ v.plain = u.plain ∧ ∀ id w, u ≠ .shared id w
  | .shared _ v => by
    rw [unshare, plain]
    exact exists_unmarked v
  | .null | .bool _ | .int _ | .float _ | .str _ | .bytes _ | .list _ | .tuple _ | .set _
  | .dict _ | .frozen _ | .object _ | .rule _ | .day _ | .moment _ =>
    ⟨_, rfl, rfl, fun _ _ h => by cases h⟩

mutual
theorem sameKey_plain_right : ∀ v w : Value, v.sameKey w.plain = v.sameKey w
  | .shared _ v, w => by
    rw [sameKey, sameKey]
    exact sameKey_plain_right v w
  | .tuple items, w => by
    obtain ⟨u, hu, hplain, hmark⟩ := w.exists_unmarked
    rw [sameKey, sameKey, unshare_plain, hplain, hu]
    cases u with
    | tuple others => exact sameKeys_plain_right items others
    | shared id v => exact absurd rfl (hmark id v)
    | _ => rfl
  | .null, w | .bytes _, w | .rule _, w | .day _, w | .moment _, w => by
    obtain ⟨u, hu, hplain, hmark⟩ := w.exists_unmarked
    rw [sameKey, sameKey, unshare_plain, hplain, hu]
    cases u with
    | shared id v => exact absurd rfl (hmark id v)
    | _ => rfl
  | .str _, _ | .bool _, _ | .int _, _ | .float _, _ | .list _, _ | .set _, _ | .dict _, _
  | .frozen _, _ | .object _, _ => by simp only [sameKey, text?_plain, number?_plain]

theorem sameKeys_plain_right : ∀ vs ws : List Value, sameKeys vs (plainAll ws) = sameKeys vs ws
  | [], [] | [], _ :: _ | _ :: _, [] => by rfl
  | v :: vs, w :: ws => by
    rw [plainAll, sameKeys, sameKeys, sameKey_plain_right v w, sameKeys_plain_right vs ws]
end

theorem sameKey_plain (v w : Value) : v.plain.sameKey w.plain = v.sameKey w := by
  rw [sameKey_plain_left, sameKey_plain_right]

end Keys

section Shown

mutual
theorem literal_plain : ∀ v : Value, v.plain.literal = v.literal
  | .shared _ v => by
    rw [plain, literal]
    exact literal_plain v
  | .list items | .tuple items => by rw [plain, literal, literal, literals_plain items]
  | .set items => by rw [plain, literal, literal, literals_plain items, isEmpty_plainAll]
  | .dict entries | .frozen entries => by
    rw [plain, literal, literal, entryLiterals_plain entries]
  | .object fields => by rw [plain, literal, literal, fieldLiterals_plain fields]
  | .null | .bool _ | .int _ | .float _ | .str _ | .bytes _ | .rule _ | .day _ | .moment _ => by
    rfl

theorem literals_plain : ∀ items : List Value, literals (plainAll items) = literals items
  | [] => by rfl
  | v :: rest => by rw [plainAll, literals, literals, literal_plain v, literals_plain rest]

theorem entryLiteral_plain : ∀ e : Value × Value, entryLiteral (plainEntry e) = entryLiteral e
  | (key, v) => by
    rw [plainEntry, entryLiteral, entryLiteral, literal_plain key, literal_plain v]

theorem entryLiterals_plain : ∀ entries : List (Value × Value),
    entryLiterals (plainEntries entries) = entryLiterals entries
  | [] => by rfl
  | e :: rest => by
    rw [plainEntries, entryLiterals, entryLiterals, entryLiteral_plain e,
      entryLiterals_plain rest]

theorem fieldLiteral_plain : ∀ f : String × Value, fieldLiteral (plainField f) = fieldLiteral f
  | (name, v) => by rw [plainField, fieldLiteral, fieldLiteral, literal_plain v]

theorem fieldLiterals_plain : ∀ fields : List (String × Value),
    fieldLiterals (plainFields fields) = fieldLiterals fields
  | [] => by rfl
  | (name, v) :: rest => by
    rw [plainFields, fieldLiterals, fieldLiterals, fieldLiteral_plain (name, v),
      fieldLiterals_plain rest, plainField]
end

theorem display_plain : ∀ v : Value, v.plain.display = v.display
  | .shared _ v => by
    rw [plain, display]
    exact display_plain v
  | .str _ | .day _ | .moment _ => by rfl
  | .list items => literal_plain (.list items)
  | .tuple items => literal_plain (.tuple items)
  | .set items => literal_plain (.set items)
  | .dict entries => literal_plain (.dict entries)
  | .frozen entries => literal_plain (.frozen entries)
  | .object fields => literal_plain (.object fields)
  | .null | .bool _ | .int _ | .float _ | .bytes _ | .rule _ => by rfl

theorem display_of_text {v : Value} {s : String} (h : v.text? = some s) : v.display = s := by
  rw [← display_plain, plain_of_text h, display]

end Shown

end Value

namespace Entries

open Value

theorem get?_plain (entries : Entries) (key : Value) :
    get? (plainEntries entries) key.plain = (get? entries key).map plain := by
  rw [plainEntries_eq, get?, get?, List.find?_map]
  simp only [Function.comp_def, sameKey_plain, Option.map_map]

theorem named?_plain (entries : Entries) (name : String) :
    named? (plainEntries entries) name = (named? entries name).map plain :=
  get?_plain entries (.str name)

theorem named_plain (entries : Entries) (name : String) :
    named (plainEntries entries) name = (named entries name).plain := by
  rw [named, named, named?_plain]
  cases named? entries name <;> rfl

theorem put_plain (key v : Value) (entries : Entries) :
    put key.plain v.plain (plainEntries entries) = plainEntries (put key v entries) := by
  induction entries with
  | nil => rfl
  | cons e rest ih =>
    rw [plainEntries, put, put, plainEntry, sameKey_plain, ih]
    by_cases h : e.1.sameKey key
    · rw [if_pos h, if_pos h]
      rfl
    · rw [if_neg h, if_neg h, plainEntries, plainEntry]

end Entries

end LineJoin
