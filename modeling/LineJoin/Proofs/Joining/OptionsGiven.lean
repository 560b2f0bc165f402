import LineJoin.Proofs.Joining.OptionsReading

/-!
# What options give

The entries of a mapping give options, under either spelling of each name. They are read in turn:
the last value for an option counts, a name that is not known leaves a record, and the first entry
with a value of a wrong type is the error.
-/

namespace LineJoin

namespace Options

open Value Logged

/-! ## The values of entries -/

/-- The flag that a key names. -/
def flagOf? (key : Value) : Option Flag := key.text?.bind flagNamed?

def isRulesKey (key : Value) : Bool := key.text?.any isRulesName

/-- The side of a rule that a key names. -/
def sideOf? (key : Value) : Option Side := key.text?.bind sideNamed?

def items? (v : Value) : Option (List Value) :=
  match v.unshare with
  | .list items | .tuple items => some items
  | _ => none

def IsFlag (v : Value) : Prop := v.unshare = .null ∨ ∃ b, v.unshare = .bool b

def IsFragment (v : Value) : Prop := v.unshare = .null ∨ ∃ s, v.unshare = .str s

/-- The value of an entry is a fragment, if the entry is for a side of a rule. -/
def SoundSide (e : Value × Value) : Prop := ∀ side, sideOf? e.1 = some side → IsFragment e.2

def SoundItem (item : Value) : Prop :=
  (∃ r, item.unshare = .rule r) ∨ ∃ sides, item.mapping? = some sides ∧ ∀ e ∈ sides, SoundSide e

def AreRules (v : Value) : Prop :=
  v.unshare = .null ∨ ∃ items, items? v = some items ∧ ∀ item ∈ items, SoundItem item

/-- The value of an entry fits the option that the entry is for, if there is one. -/
def Sound (e : Value × Value) : Prop :=
  (∀ flag, flagOf? e.1 = some flag → IsFlag e.2) ∧ (isRulesKey e.1 = true → AreRules e.2)

/-- The last value that entries give. -/
def last? {α : Type} (given : Value × Value → Option α) (entries : Entries) : Option α :=
  (entries.filterMap given).getLast?

/-- The value of an entry for a flag. Null is none. -/
def flagGiven (flag : Flag) (e : Value × Value) : Option Bool :=
  match e.2.unshare with
  | .bool b => if flagOf? e.1 = some flag then some b else none
  | _ => none

/-- The fragment of an entry for a side. Null and the empty text are a missing fragment. -/
def sideGiven (side : Side) (e : Value × Value) : Option (Option String) :=
  if sideOf? e.1 = some side then some (e.2.text?.bind Rule.side) else none

/-- A rule with the sides that entries give. -/
def sidesGiven (entries : Entries) (r : Rule) : Rule where
  before := (last? (sideGiven .before) entries).getD r.before
  after := (last? (sideGiven .after) entries).getD r.after

def ruleOf (item : Value) : Rule :=
  match item.unshare with
  | .rule r => r
  | _ => sidesGiven (item.mapping?.getD []) {}

/-- The rules of an entry. Null gives no rules. -/
def rulesGiven (e : Value × Value) : Option (List Rule) :=
  if isRulesKey e.1 then some (((items? e.2).getD []).map ruleOf) else none

/-- Options with what entries give. -/
def optionsGiven (entries : Entries) (o : Options) : Options where
  extensions := {
    hangul := (last? (flagGiven .hangul) entries).getD o.extensions.hangul
    emoji := (last? (flagGiven .emoji) entries).getD o.extensions.emoji
    squared := (last? (flagGiven .squared) entries).getD o.extensions.squared }
  additionalRules := (last? rulesGiven entries).getD o.additionalRules

/-! ## The records of entries -/

def warning (message : String) : Record :=
  { level := .warning, channel := .options, message := message }

def unknownSide (key : String) (index : Nat) (name : Value) : Record :=
  warning ("Unknown or malformed key '" ++ name.display ++ "' in " ++ ruleLabel key index ++
    ". Ignoring.")

def unknownOption (key : Value) : Record :=
  warning ("Unknown or malformed option '" ++ key.display ++ "' found. Ignoring.")

def sideReports (key : String) (index : Nat) (e : Value × Value) : List Record :=
  if (sideOf? e.1).isSome then [] else [unknownSide key index e.1]

def itemReports (key : String) (index : Nat) (item : Value) : List Record :=
  (item.mapping?.getD []).flatMap (sideReports key index)

def itemsReports (key : String) (index : Nat) (items : List Value) : List Record :=
  (items.mapIdx fun i item => itemReports key (index + i) item).flatten

def reports (e : Value × Value) : List Record :=
  if (flagOf? e.1).isSome then []
  else if isRulesKey e.1 then itemsReports e.1.display 0 ((items? e.2).getD [])
  else [unknownOption e.1]

/-- The error of an item that is no rule, with the records made before it. -/
inductive RefusedItem (key : String) (index : Nat) : Value → OptionsError → List Record → Prop
  | notMapping {item : Value} (hrule : ∀ r, item.unshare ≠ .rule r)
      (hmapping : item.mapping? = none) :
      RefusedItem key index item (.ruleNotMapping key index item.typeName) []
  | side {item name fragment : Value} {before after : Entries} {text : String} {side : Side}
      (hmapping : item.mapping? = some (before ++ (name, fragment) :: after))
      (hbefore : ∀ e ∈ before, SoundSide e) (hname : name.text? = some text)
      (hside : sideNamed? text = some side) (hfragment : ¬IsFragment fragment) :
      RefusedItem key index item (.sideNotText key index text fragment.typeName)
        (before.flatMap (sideReports key index))

/-- The error of an entry whose value does not fit, with the records made before it. -/
inductive Refused : Value × Value → OptionsError → List Record → Prop
  | flag {key v : Value} {name : String} {flag : Flag} (hname : key.text? = some name)
      (hflag : flagNamed? name = some flag) (hv : ¬IsFlag v) :
      Refused (key, v) (.flagNotBool name v.typeName) []
  | rules {key v : Value} {name : String} (hname : key.text? = some name)
      (hrules : isRulesName name = true) (hnull : v.unshare ≠ .null) (hitems : items? v = none) :
      Refused (key, v) (.rulesNotList name v.typeName) []
  | item {key v item : Value} {name : String} {before after : List Value} {err : OptionsError}
      {records : List Record} (hname : key.text? = some name) (hrules : isRulesName name = true)
      (hitems : items? v = some (before ++ item :: after))
      (hbefore : ∀ item ∈ before, SoundItem item)
      (hitem : RefusedItem name before.length item err records) :
      Refused (key, v) err (itemsReports name 0 before ++ records)

section Last

variable {α : Type} {given : Value × Value → Option α}

theorem last?_cons (given : Value × Value → Option α) (e : Value × Value) (rest : Entries) :
    last? given (e :: rest) = (last? given rest).or (given e) := by
  rw [last?, List.filterMap_cons]
  cases given e with
  | none => exact Option.or_none.symm
  | some a =>
    rw [List.getLast?_cons, last?]
    cases (rest.filterMap given).getLast? <;> rfl

theorem last?_singleton (given : Value × Value → Option α) (e : Value × Value) :
    last? given [e] = given e := last?_cons given e []

end Last

/-! ## Sides -/

section Sides

variable {key : String} {index : Nat} {name v : Value} {rest before entries : Entries} {r : Rule}
  {side : Side}

theorem readSides_unknown (h : sideOf? name = none) :
    readSides key index ((name, v) :: rest) r =
      (warn (unknownSide key index name).message >>= fun _ => readSides key index rest r) := by
  have hbind : (name.text?.bind fun n => (sideNamed? n).map fun s => (n, s)) = none := by
    rw [sideOf?] at h
    cases htext : name.text? with
    | none => rfl
    | some text =>
      rw [htext, Option.bind_some] at h
      rw [Option.bind_some, h]
      rfl
  rw [readSides, hbind]
  rfl

theorem readSides_side (h : sideOf? name = some side) (hv : IsFragment v) :
    readSides key index ((name, v) :: rest) r =
      readSides key index rest (setSide r (v.text?.bind Rule.side) side) := by
  obtain ⟨text, htext, hside⟩ := Option.bind_eq_some_iff.mp h
  rw [readSides, htext, Option.bind_some, hside, ← text?_unshare v]
  rcases hv with hv | ⟨s, hv⟩
  · rw [hv]
    rfl
  · rw [hv]
    rfl

theorem readSides_refused {text : String} (hname : name.text? = some text)
    (hside : sideNamed? text = some side) (hv : ¬IsFragment v) :
    readSides key index ((name, v) :: rest) r =
      throw (.sideNotText key index text v.typeName) := by
  rw [readSides, hname, Option.bind_some, hside, ← typeName_unshare v]
  rw [IsFragment] at hv
  cases hu : v.unshare with
  | null => exact absurd (.inl hu) hv
  | str s => exact absurd (.inr ⟨s, hu⟩) hv
  | _ => rfl

theorem readSides_append (before rest : Entries) (r : Rule) :
    readSides key index (before ++ rest) r =
      (readSides key index before r >>= fun r => readSides key index rest r) := by
  induction before generalizing r with
  | nil => exact (pure_bind r _).symm
  | cons e more ih =>
    obtain ⟨name, v⟩ := e
    rw [List.cons_append, readSides, readSides]
    split
    · simp only [bind_assoc, ih]
    · split
      · exact ih _
      · exact ih _
      · rfl

theorem sidesGiven_cons (e : Value × Value) (rest : Entries) (r : Rule) :
    sidesGiven (e :: rest) r = sidesGiven rest (sidesGiven [e] r) := by
  simp only [sidesGiven, last?_cons _ e rest, last?_singleton, Option.getD_or]

/-- An entry gives a rule its side. -/
theorem sidesGiven_singleton (h : sideOf? name = some side) :
    sidesGiven [(name, v)] r = setSide r (v.text?.bind Rule.side) side := by
  cases side <;> simp [sidesGiven, last?_singleton, sideGiven, h, setSide]

theorem sidesGiven_unknown (h : sideOf? name = none) : sidesGiven [(name, v)] r = r := by
  simp [sidesGiven, last?_singleton, sideGiven, h]

/-- The sides of a rule are read from entries with fitting values. -/
theorem readSides_of_sound (h : ∀ e ∈ entries, SoundSide e) (r : Rule) :
    (readSides key index entries r).outcome =
      (.ok (sidesGiven entries r), entries.flatMap (sideReports key index)) := by
  induction entries generalizing r with
  | nil => rfl
  | cons e rest ih =>
    obtain ⟨name, v⟩ := e
    obtain ⟨he, hrest⟩ := List.forall_mem_cons.mp h
    rw [sidesGiven_cons, List.flatMap_cons, sideReports]
    cases hside : sideOf? name with
    | none =>
      have hwarn : (warn (unknownSide key index name).message).outcome =
          (.ok (), [unknownSide key index name]) := rfl
      rw [readSides_unknown hside, outcome_bind_of_ok hwarn (appends_readSides _ _), ih hrest,
        sidesGiven_unknown hside]
      rfl
    | some side =>
      rw [readSides_side hside (he side hside), ih hrest, sidesGiven_singleton hside]
      rfl

end Sides

/-! ## Rules -/

section Rules

variable {key : String} {index : Nat} {item v : Value} {items : List Value} {err : OptionsError}
  {records : List Record}

theorem not_rule_of_mapping? {entries : Entries} (h : item.mapping? = some entries) (r : Rule) :
    item.unshare ≠ .rule r := by
  intro hr
  rw [← mapping?_unshare, hr] at h
  cases h

theorem readRule_of_not_rule (h : ∀ r, item.unshare ≠ .rule r) :
    readRule key index item = match item.mapping? with
      | some entries => readSides key index entries {}
      | none => throw (.ruleNotMapping key index item.typeName) := by
  rw [readRule, ← mapping?_unshare item, ← typeName_unshare item]
  split
  · exact absurd ‹_› (h _)
  · rfl

theorem ruleOf_of_not_rule (h : ∀ r, item.unshare ≠ .rule r) :
    ruleOf item = sidesGiven (item.mapping?.getD []) {} := by
  rw [ruleOf]
  split
  · exact absurd ‹_› (h _)
  · rfl

theorem readRule_of_sound (h : SoundItem item) :
    (readRule key index item).outcome = (.ok (ruleOf item), itemReports key index item) := by
  rw [itemReports]
  rcases h with ⟨r, hr⟩ | ⟨sides, hsides, hsound⟩
  · rw [readRule, ruleOf, ← mapping?_unshare, hr]
    rfl
  · have hrule := not_rule_of_mapping? hsides
    rw [readRule_of_not_rule hrule, ruleOf_of_not_rule hrule, hsides]
    exact readSides_of_sound hsound {}

theorem readRule_of_refused (h : RefusedItem key index item err records) :
    (readRule key index item).outcome = (.error err, records) := by
  cases h with
  | notMapping hrule hmapping =>
    rw [readRule_of_not_rule hrule, hmapping]
    rfl
  | side hmapping hbefore hname hside hfragment =>
    rw [readRule_of_not_rule (not_rule_of_mapping? hmapping), hmapping]
    dsimp only
    rw [readSides_append, outcome_bind_of_ok (readSides_of_sound hbefore _) (appends_readSides _ _),
      readSides_refused hname hside hfragment]
    exact congrArg (_, ·) (List.append_nil _)

theorem itemsReports_cons (key : String) (index : Nat) (item : Value) (rest : List Value) :
    itemsReports key index (item :: rest) =
      itemReports key index item ++ itemsReports key (index + 1) rest := by
  have hshift (i : Nat) : index + 1 + i = index + (i + 1) := Nat.add_right_comm index 1 i
  rw [itemsReports, itemsReports, List.mapIdx_cons, List.flatten_cons]
  simp only [hshift]
  rfl

/-- A sound item comes before the rules of the others. -/
theorem readItems_cons (h : SoundItem item) (rest : List Value) :
    (readItems key index (item :: rest)).outcome =
      ((readItems key (index + 1) rest).outcome.1.map (ruleOf item :: ·),
        itemReports key index item ++ (readItems key (index + 1) rest).outcome.2) := by
  rw [readItems, outcome_bind_of_ok (readRule_of_sound h)
    ((appends_readItems rest).bind fun _ => appends_pure _), outcome_bind_pure]

theorem readItems_of_sound (h : ∀ item ∈ items, SoundItem item) :
    (readItems key index items).outcome =
      (.ok (items.map ruleOf), itemsReports key index items) := by
  induction items generalizing index with
  | nil => rfl
  | cons item rest ih =>
    obtain ⟨hitem, hrest⟩ := List.forall_mem_cons.mp h
    rw [readItems_cons hitem, ih hrest, itemsReports_cons]
    rfl

theorem readItems_of_refused {before after : List Value} (hbefore : ∀ item ∈ before, SoundItem item)
    (hitem : RefusedItem key (index + before.length) item err records) :
    (readItems key index (before ++ item :: after)).outcome =
      (.error err, itemsReports key index before ++ records) := by
  induction before generalizing index with
  | nil =>
    rw [List.length_nil, Nat.add_zero] at hitem
    rw [List.nil_append, readItems, outcome_bind_of_error (readRule_of_refused hitem)]
    rfl
  | cons first more ih =>
    obtain ⟨hfirst, hmore⟩ := List.forall_mem_cons.mp hbefore
    rw [List.length_cons, Nat.add_comm more.length, ← Nat.add_assoc] at hitem
    rw [List.cons_append, readItems_cons hfirst, ih hmore hitem, itemsReports_cons,
      List.append_assoc]
    rfl

theorem readRules_of_items? (h : items? v = some items) :
    readRules key v = readItems key 0 items := by
  rw [items?] at h
  rw [readRules]
  cases hv : v.unshare with
  | list _ | tuple _ =>
    rw [hv] at h
    cases h
    rfl
  | _ =>
    rw [hv] at h
    cases h

theorem readRules_of_not_items (hnull : v.unshare ≠ .null) (hitems : items? v = none) :
    readRules key v = throw (.rulesNotList key v.typeName) := by
  rw [items?] at hitems
  rw [readRules, ← typeName_unshare v]
  cases hv : v.unshare with
  | null => exact absurd hv hnull
  | list _ | tuple _ =>
    rw [hv] at hitems
    cases hitems
  | _ => rfl

theorem items?_of_null (h : v.unshare = .null) : items? v = none := by
  rw [items?, h]

theorem readRules_of_sound (h : AreRules v) : (readRules key v).outcome =
    (.ok (((items? v).getD []).map ruleOf), itemsReports key 0 ((items? v).getD [])) := by
  rcases h with hnull | ⟨items, hitems, hsound⟩
  · rw [readRules, hnull, items?_of_null hnull]
    rfl
  · rw [readRules_of_items? hitems, hitems]
    exact readItems_of_sound hsound

end Rules

/-! ## Entries -/

section Entries

variable {key v : Value} {name : String} {flag : Flag} {rest entries : Entries} {o : Options}
  {e : Value × Value} {err : OptionsError} {records : List Record}

theorem readEntries_flag (hname : key.text? = some name) (hflag : flagNamed? name = some flag) :
    readEntries ((key, v) :: rest) o =
      (.ofExcept (readFlag name flag v o) >>= readEntries rest) := by
  rw [readEntries, hname]
  simp only [hflag]

/-- No name is that of a flag and of rules. -/
theorem flagNamed?_of_isRulesName (h : isRulesName name = true) : flagNamed? name = none := by
  rw [isRulesName, Bool.or_eq_true, beq_iff_eq, beq_iff_eq] at h
  rcases h with rfl | rfl <;> rfl

theorem readEntries_rules (hname : key.text? = some name) (hrules : isRulesName name = true) :
    readEntries ((key, v) :: rest) o =
      (readRules name v >>= fun rules => readEntries rest { o with additionalRules := rules }) := by
  rw [readEntries, hname]
  simp only [flagNamed?_of_isRulesName hrules, if_pos hrules]

theorem readEntries_unknown (hflag : flagOf? key = none) (hrules : isRulesKey key = false) :
    readEntries ((key, v) :: rest) o =
      (warn (unknownOption key).message >>= fun _ => readEntries rest o) := by
  rw [readEntries]
  cases hname : key.text? with
  | none => rfl
  | some name =>
    rw [flagOf?, hname, Option.bind_some] at hflag
    rw [isRulesKey, hname, Option.any_some] at hrules
    simp only [hflag, if_neg (Bool.eq_false_iff.mp hrules), unknownOption, warning,
      display_of_text hname]

theorem readEntries_append (before rest : Entries) (o : Options) :
    readEntries (before ++ rest) o = (readEntries before o >>= readEntries rest) := by
  induction before generalizing o with
  | nil => exact (pure_bind o _).symm
  | cons e more ih =>
    obtain ⟨key, v⟩ := e
    rw [List.cons_append, readEntries, readEntries]
    split
    · simp only [bind_assoc, ih]
    · split
      · simp only [bind_assoc, ih]
      · split <;> simp only [bind_assoc, ih]

theorem optionsGiven_cons (e : Value × Value) (rest : Entries) (o : Options) :
    optionsGiven (e :: rest) o = optionsGiven rest (optionsGiven [e] o) := by
  simp only [optionsGiven, last?_cons _ e rest, last?_singleton, Option.getD_or]

theorem isRulesKey_of_flagOf? (h : flagOf? key = some flag) : isRulesKey key = false := by
  obtain ⟨name, hname, hflag⟩ := Option.bind_eq_some_iff.mp h
  rw [isRulesKey, hname, Option.any_some, Bool.eq_false_iff]
  intro hrules
  rw [flagNamed?_of_isRulesName hrules] at hflag
  cases hflag

theorem readFlag_of_sound (hname : key.text? = some name) (hflag : flagNamed? name = some flag)
    (hv : IsFlag v) (o : Options) : readFlag name flag v o = .ok (optionsGiven [(key, v)] o) := by
  have hkey : flagOf? key = some flag := by rw [flagOf?, hname, Option.bind_some, hflag]
  have hrules := isRulesKey_of_flagOf? hkey
  rw [readFlag]
  rcases hv with hv | ⟨b, hv⟩
  · simp [hv, optionsGiven, last?_singleton, flagGiven, rulesGiven, hrules]
  · cases flag <;>
      simp [hv, optionsGiven, last?_singleton, flagGiven, rulesGiven, hrules, hkey, setFlag]

theorem readFlag_of_not_flag (hv : ¬IsFlag v) (name : String) (flag : Flag) (o : Options) :
    readFlag name flag v o = .error (.flagNotBool name v.typeName) := by
  rw [IsFlag] at hv
  rw [readFlag, ← typeName_unshare v]
  cases hu : v.unshare with
  | null => exact absurd (.inl hu) hv
  | bool b => exact absurd (.inr ⟨b, hu⟩) hv
  | _ => rfl

theorem flagGiven_of_none (h : flagOf? key = none) (flag : Flag) (v : Value) :
    flagGiven flag (key, v) = none := by
  rw [flagGiven, h]
  split <;> rfl

/-- An entry for rules gives them, and no flag. -/
theorem optionsGiven_rules (hflag : flagOf? key = none) (hrules : isRulesKey key = true) :
    optionsGiven [(key, v)] o =
      { o with additionalRules := ((items? v).getD []).map ruleOf } := by
  simp [optionsGiven, last?_singleton, flagGiven_of_none hflag, rulesGiven, hrules]

theorem optionsGiven_unknown (hflag : flagOf? key = none) (hrules : isRulesKey key = false) :
    optionsGiven [(key, v)] o = o := by
  simp [optionsGiven, last?_singleton, flagGiven_of_none hflag, rulesGiven, hrules]

theorem readEntries_cons_of_sound (h : Sound e) (rest : Entries) (o : Options) :
    (readEntries (e :: rest) o).outcome =
      ((readEntries rest (optionsGiven [e] o)).outcome.1,
        reports e ++ (readEntries rest (optionsGiven [e] o)).outcome.2) := by
  obtain ⟨key, v⟩ := e
  rw [reports]
  cases hflag : flagOf? key with
  | some flag =>
    obtain ⟨name, hname, hnamed⟩ := Option.bind_eq_some_iff.mp hflag
    rw [readEntries_flag hname hnamed, readFlag_of_sound hname hnamed (h.1 flag hflag)]
    exact outcome_bind_of_ok rfl (appends_readEntries _ _)
  | none =>
    cases hrules : isRulesKey key with
    | true =>
      obtain ⟨name, hname, hnamed⟩ := (Option.any_eq_true _ _).mp hrules
      rw [readEntries_rules hname hnamed, outcome_bind_of_ok (readRules_of_sound (h.2 hrules))
        (appends_readEntries _ _), optionsGiven_rules hflag hrules, display_of_text hname]
      rfl
    | false =>
      have hwarn : (warn (unknownOption key).message).outcome =
          (.ok (), [unknownOption key]) := rfl
      rw [readEntries_unknown hflag hrules, outcome_bind_of_ok hwarn (appends_readEntries _ _),
        optionsGiven_unknown hflag hrules]
      rfl

theorem readEntries_of_sound (h : ∀ e ∈ entries, Sound e) (o : Options) :
    (readEntries entries o).outcome = (.ok (optionsGiven entries o), entries.flatMap reports) := by
  induction entries generalizing o with
  | nil => rfl
  | cons e rest ih =>
    obtain ⟨he, hrest⟩ := List.forall_mem_cons.mp h
    rw [readEntries_cons_of_sound he, ih hrest, optionsGiven_cons e rest, List.flatMap_cons]

theorem readEntries_of_refused (h : Refused e err records) (rest : Entries) (o : Options) :
    (readEntries (e :: rest) o).outcome = (.error err, records) := by
  cases h with
  | flag hname hflag hv =>
    rw [readEntries_flag hname hflag, readFlag_of_not_flag hv]
    exact outcome_bind_of_error rfl
  | rules hname hrules hnull hitems =>
    rw [readEntries_rules hname hrules, readRules_of_not_items hnull hitems]
    exact outcome_bind_of_error rfl
  | @item key v item name before after err records hname hrules hitems hbefore hitem =>
    have herror : (readItems name 0 (before ++ item :: after)).outcome =
        (.error err, itemsReports name 0 before ++ records) :=
      readItems_of_refused hbefore ((Nat.zero_add before.length).symm ▸ hitem)
    rw [readEntries_rules hname hrules, readRules_of_items? hitems, outcome_bind_of_error herror]

end Entries

/-! ## Options from a mapping -/

section Mapping

theorem exists_first_not {α : Type} {P : α → Prop} {l : List α} (h : ¬∀ a ∈ l, P a) :
    ∃ before a after, l = before ++ a :: after ∧ (∀ b ∈ before, P b) ∧ ¬P a := by
  induction l with
  | nil => exact absurd (List.forall_mem_nil _) h
  | cons a rest ih =>
    by_cases ha : P a
    · obtain ⟨before, b, after, rfl, hbefore, hb⟩ := ih fun hrest =>
        h (List.forall_mem_cons.mpr ⟨ha, hrest⟩)
      exact ⟨a :: before, b, after, rfl, List.forall_mem_cons.mpr ⟨ha, hbefore⟩, hb⟩
    · exact ⟨[], a, rest, rfl, List.forall_mem_nil _, ha⟩

theorem exists_refusedItem {item : Value} (h : ¬SoundItem item) (key : String) (index : Nat) :
    ∃ err records, RefusedItem key index item err records := by
  rw [SoundItem, not_or] at h
  cases hmapping : item.mapping? with
  | none => exact ⟨_, _, .notMapping (fun r hr => h.1 ⟨r, hr⟩) hmapping⟩
  | some sides =>
    obtain ⟨before, ⟨name, fragment⟩, after, rfl, hbefore, hside⟩ :=
      exists_first_not fun hsides => h.2 ⟨sides, hmapping, hsides⟩
    rw [SoundSide, Classical.not_forall] at hside
    obtain ⟨side, hside⟩ := hside
    rw [Classical.not_imp] at hside
    obtain ⟨hkey, hfragment⟩ := hside
    obtain ⟨text, htext, hnamed⟩ := Option.bind_eq_some_iff.mp hkey
    exact ⟨_, _, .side hmapping hbefore htext hnamed hfragment⟩

theorem exists_refused {e : Value × Value} (h : ¬Sound e) :
    ∃ err records, Refused e err records := by
  obtain ⟨key, v⟩ := e
  rw [Sound, Classical.not_and_iff_not_or_not] at h
  rcases h with h | h
  · rw [Classical.not_forall] at h
    obtain ⟨flag, hflag⟩ := h
    rw [Classical.not_imp] at hflag
    obtain ⟨name, hname, hnamed⟩ := Option.bind_eq_some_iff.mp hflag.1
    exact ⟨_, _, .flag hname hnamed hflag.2⟩
  · rw [Classical.not_imp, AreRules, not_or] at h
    obtain ⟨hrules, hnull, hitems⟩ := h
    obtain ⟨name, hname, hnamed⟩ := (Option.any_eq_true _ _).mp hrules
    cases hv : items? v with
    | none => exact ⟨_, _, .rules hname hnamed hnull hv⟩
    | some items =>
      obtain ⟨before, item, after, rfl, hbefore, hitem⟩ :=
        exists_first_not fun hsound => hitems ⟨items, hv, hsound⟩
      obtain ⟨err, records, hrefused⟩ := exists_refusedItem hitem name before.length
      exact ⟨err, _, .item hname hnamed hv hbefore hrefused⟩

variable {data : Value} {entries : Entries}

theorem ofValue_of_mapping? (h : data.mapping? = some entries) :
    ofValue data = readEntries entries {} := by
  rw [← mapping?_unshare] at h
  rw [ofValue]
  split
  · rename_i hdata
    rw [hdata] at h
    cases h
  · rw [h]

/-- A mapping gives options just if the value of each entry fits. Each flag is then the last truth
value for it, false if there is none, and the rules are those of the last entry for them; names that
are not known leave a record each. Otherwise the first entry with a value that does not fit is the
error. -/
theorem ofValue_mapping (h : data.mapping? = some entries) :
    ((∃ o, (ofValue data).outcome.1 = .ok o) ↔ ∀ e ∈ entries, Sound e) ∧
      ((∀ e ∈ entries, Sound e) →
        (ofValue data).outcome = (.ok (optionsGiven entries {}), entries.flatMap reports)) ∧
      ((¬∀ e ∈ entries, Sound e) → ∃ before e after err records,
        entries = before ++ e :: after ∧ (∀ f ∈ before, Sound f) ∧ ¬Sound e ∧
          Refused e err records ∧
          (ofValue data).outcome = (.error err, before.flatMap reports ++ records)) := by
  rw [ofValue_of_mapping? h]
  have hfirst (hnot : ¬∀ e ∈ entries, Sound e) : ∃ before e after err records,
      entries = before ++ e :: after ∧ (∀ f ∈ before, Sound f) ∧ ¬Sound e ∧
        Refused e err records ∧
        (readEntries entries {}).outcome = (.error err, before.flatMap reports ++ records) := by
    obtain ⟨before, e, after, rfl, hbefore, he⟩ := exists_first_not hnot
    obtain ⟨err, records, hrefused⟩ := exists_refused he
    refine ⟨before, e, after, err, records, rfl, hbefore, he, hrefused, ?_⟩
    rw [readEntries_append, outcome_bind_of_ok (readEntries_of_sound hbefore _)
      (appends_readEntries _ _), readEntries_of_refused hrefused]
  refine ⟨⟨fun ⟨o, ho⟩ => ?_, fun hsound => ?_⟩, fun hsound => readEntries_of_sound hsound _,
    hfirst⟩
  · refine Classical.byContradiction fun hnot => ?_
    obtain ⟨before, e, after, err, records, -, -, -, -, houtcome⟩ := hfirst hnot
    rw [houtcome] at ho
    cases ho
  · exact ⟨_, congrArg Prod.fst (readEntries_of_sound hsound _)⟩

/-- Both spellings of a flag, a name that is not known, and rules of both kinds. -/
def sampleEntries : Entries :=
  [(.str "includeHangul", .bool true), (.str "theme", .int 3),
    (.str "additional_regexp_pairs", .list [.rule { after := some "b" },
      .dict [(.str "beforeBreak", .str "a"), (.str "before_break", .str "")]]),
    (.str "include_hangul", .null)]

theorem sound_sampleEntries : ∀ e ∈ sampleEntries, Sound e := by
  have hsides : ∀ e ∈ [(str "beforeBreak", str "a"), (str "before_break", str "")], SoundSide e :=
    List.forall_mem_cons.mpr ⟨fun _ _ => .inr ⟨"a", rfl⟩, List.forall_mem_singleton.mpr
      fun _ _ => .inr ⟨"", rfl⟩⟩
  have hitems : ∀ item ∈ [rule { after := some "b" },
      dict [(str "beforeBreak", str "a"), (str "before_break", str "")]], SoundItem item :=
    List.forall_mem_cons.mpr ⟨.inl ⟨_, rfl⟩, List.forall_mem_singleton.mpr (.inr ⟨_, rfl, hsides⟩)⟩
  rw [sampleEntries, List.forall_mem_cons, List.forall_mem_cons, List.forall_mem_cons,
    List.forall_mem_singleton]
  refine ⟨⟨fun _ _ => .inr ⟨true, rfl⟩, fun h => absurd h (by decide)⟩,
    ⟨fun _ h => (by cases h), fun h => absurd h (by decide)⟩,
    ⟨fun _ h => (by cases h), fun _ => .inr ⟨_, rfl, hitems⟩⟩,
    ⟨fun _ _ => .inl rfl, fun h => absurd h (by decide)⟩⟩

theorem ofValue_mapping_spellings :
    (ofValue (.dict sampleEntries)).outcome =
        (.ok { extensions := { hangul := true }, additionalRules := [{ after := some "b" }, {}] },
          [unknownOption (.str "theme")]) ∧
      ¬∃ o, (ofValue (.frozen ((.str "includeEmoji", .int 1) :: sampleEntries))).outcome.1 =
        .ok o := by
  refine ⟨((ofValue_mapping rfl).2.1 sound_sampleEntries).trans ?_, fun hok => ?_⟩
  · have hgiven : optionsGiven sampleEntries {} =
        { extensions := { hangul := true }, additionalRules := [{ after := some "b" }, {}] } := by
      decide +kernel
    have hreports : sampleEntries.flatMap reports = [unknownOption (.str "theme")] := by
      decide +kernel
    rw [hgiven, hreports]
  · have hsound := (ofValue_mapping rfl).1.mp hok _ List.mem_cons_self
    rcases hsound.1 .emoji rfl with hnull | ⟨b, hbool⟩
    · cases hnull
    · cases hbool

end Mapping

end Options

end LineJoin
