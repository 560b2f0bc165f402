import LineJoin.Proofs.Settings.Checks
import LineJoin.Proofs.Value.Shown
import Mathlib.Data.List.TakeWhile

/-!
# What the check of settings reports

The check goes through the keys of a configuration and of its sections. It stops at the first value
that does not fit, and reports every key before it that the schema does not know. Keys are known by
their paths, so a key of the configuration itself that is spelled with a dot, as the path of a key
inside a section, passes for that one: its value is checked, and it is not reported.
-/

namespace LineJoin.Settings

open Entries Value

/-- The report of a key that the schema does not know. -/
def ignoring (lines : List (List Char)) (path : String) : Record :=
  ⟨.warning, .settings, "line " ++ lineText (lineOf? path lines) ++ ": unknown or malformed key '" ++
    path ++ "' found. Ignoring.", false⟩

/-- The paths that the schema does not know. -/
def unknownPaths (ps : List (String × Value)) : List String :=
  (ps.filter fun p => (schema.lookup p.1).isNone).map (·.1)

section Walk

variable {lines : List (List Char)} {config : Entries} {records : List Record} {path : String}
  {v : Value} {rest : List (String × Value)}

theorem unknownPaths_cons_of_none (h : schema.lookup path = none) :
    unknownPaths ((path, v) :: rest) = path :: unknownPaths rest := by
  rw [unknownPaths, List.filter_cons_of_pos (by rw [h]; rfl)]
  rfl

theorem unknownPaths_cons_of_some {t : ValueType} (h : schema.lookup path = some t) :
    unknownPaths ((path, v) :: rest) = unknownPaths rest := by
  rw [unknownPaths, List.filter_cons_of_neg (by rw [h]; exact Bool.false_ne_true)]
  rfl

theorem unknownPaths_append (ps qs : List (String × Value)) :
    unknownPaths (ps ++ qs) = unknownPaths ps ++ unknownPaths qs := by
  rw [unknownPaths, List.filter_append, List.map_append]
  rfl

/-- The check ends at the first value that does not fit, with the reports of the keys before it. -/
theorem checkTypes_run (lines : List (List Char)) (ps : List (String × Value))
    (records : List Record) :
    (checkTypes lines ps).run records =
      ((ps.find? fun p => ¬Fits p.1 p.2).map fun p => ⟨.wrongType, p.1, p.2, lineOf? p.1 lines⟩,
        records ++ (unknownPaths (ps.takeWhile fun p => Fits p.1 p.2)).map (ignoring lines)) := by
  induction ps generalizing records with
  | nil => exact congrArg (none, ·) (List.append_nil records).symm
  | cons p rest ih =>
    obtain ⟨path, v⟩ := p
    rw [checkTypes, List.find?_cons, List.takeWhile_cons]
    cases hpath : schema.lookup path with
    | none =>
      have hfits : Fits path v := fun t ht => by
        rw [hpath] at ht
        cases ht
      simp only [hfits, not_true_eq_false, decide_false, decide_true, if_true,
        unknownPaths_cons_of_none hpath, List.map_cons]
      refine (ih (records ++ [ignoring lines path])).trans ?_
      rw [List.append_assoc, List.singleton_append]
    | some t =>
      have hfits : Fits path v ↔ t.admits v = true :=
        ⟨fun h => h t hpath, fun h t' ht' => by rwa [← Option.some.inj (hpath.symm.trans ht')]⟩
      by_cases hadmits : t.admits v = true
      · simp only [hfits, hadmits, not_true_eq_false, decide_false, decide_true, if_true,
          unknownPaths_cons_of_some hpath]
        exact ih records
      · simp only [hfits, hadmits, Bool.false_eq_true, not_false_eq_true, decide_true, decide_false,
          if_false]
        exact congrArg (_, ·) (List.append_nil records).symm

/-- The choices are checked after the types, and report nothing. -/
theorem validate_run (lines : List (List Char)) (config : Entries) (records : List Record) :
    (validate lines config).run records =
      ((((items config).find? fun p => ¬Fits p.1 p.2).map fun p =>
          ⟨.wrongType, p.1, p.2, lineOf? p.1 lines⟩).or
        ((checkChoice lines config "input" "tree_format" treeFormats).or
          (checkChoice lines config "logging" "level" logLevels)),
        records ++
          (unknownPaths ((items config).takeWhile fun p => Fits p.1 p.2)).map (ignoring lines)) := by
  rw [validate, StateT.run_bind, checkTypes_run]
  cases (items config).find? fun p => ¬Fits p.1 p.2 with
  | some p => rfl
  | none => cases checkChoice lines config "input" "tree_format" treeFormats <;> rfl

/-- A type is wrong only at a value that the check comes to and that does not fit. -/
theorem misfit_of_validate {f : Finding} (h : ((validate lines config).run records).1 = some f)
    (hkind : f.kind = .wrongType) :
    ∃ p ∈ items config, f.path = p.1 ∧ f.value = p.2 ∧ ¬Fits p.1 p.2 := by
  have hchoice {name key : String} {admitted : List String} :
      checkChoice lines config name key admitted ≠ some f := by
    intro hf
    unfold checkChoice at hf
    dsimp only at hf
    split at hf
    · cases hf
    · split at hf
      · cases hf
      · rw [← Option.some.inj hf] at hkind
        cases hkind
  rw [validate_run] at h
  rcases Option.or_eq_some_iff.mp h with hfind | ⟨-, h⟩
  · obtain ⟨p, hp, rfl⟩ := Option.map_eq_some_iff.mp hfind
    have hfits := List.find?_some hp
    exact ⟨p, List.mem_of_find?_eq_some hp, rfl, rfl, of_decide_eq_true hfits⟩
  · rcases Option.or_eq_some_iff.mp h with hf | ⟨-, hf⟩
    · exact absurd hf hchoice
    · exact absurd hf hchoice

/-- Where nothing is wrong, every key that the schema does not know has been reported. -/
theorem records_of_validate (h : ((validate lines config).run records).1 = none) :
    ((validate lines config).run records).2 =
      records ++ (unknownPaths (items config)).map (ignoring lines) := by
  have hfits := (fits_items_iff config).mpr (validate_eq_none_iff.mp h).1
  have htake : ((items config).takeWhile fun p => Fits p.1 p.2) = items config :=
    List.takeWhile_eq_self_iff.mpr fun p hp => decide_eq_true (hfits p hp)
  rw [validate_run, htake]

end Walk

/-! ## Places -/

/-- A key is the name of a section. -/
def isSection (key : Value) : Bool :=
  key.text?.any fun name => schema.lookup name == some .section

/-- A key is the name of a key in a section. -/
def isField (section_ : String) (key : Value) : Bool :=
  key.text?.any fun name => (schema.lookup (section_ ++ "." ++ name)).isSome

/-- A key is spelled as the path of a key in a section. -/
def isDotted (key : Value) : Bool :=
  key.text?.any fun name => (schema.lookup name).any (· != .section)

/-- A value stands at a place of the schema: under the name of a section, or inside it under the name
of one of its keys. -/
inductive Placed (config : Entries) : String → Value → Prop
  | section {e : Value × Value} (he : e ∈ config) {name : String} (hname : e.1.text? = some name)
      (hsection : isSection e.1 = true) : Placed config name e.2
  | field {e : Value × Value} (he : e ∈ config) {name : String} (hname : e.1.text? = some name)
      (hsection : isSection e.1 = true) {entries : Entries} (hentries : e.2.dict? = some entries)
      {f : Value × Value} (hf : f ∈ entries) {key : String} (hkey : f.1.text? = some key)
      (hfield : isField name f.1 = true) : Placed config (name ++ "." ++ key) f.2

/-- The paths of the keys of an entry that have no place in the schema: its own key, if that is not
the name of a section, else those inside it that are not names of keys in this section. -/
def strayPaths (e : Value × Value) : List String :=
  if isSection e.1 then
    match e.2.dict? with
    | some entries => (entries.filter fun f => !isField e.1.display f.1).map fun f =>
        e.1.display ++ "." ++ f.1.display
    | none => []
  else [e.1.display]

section Paths

variable {path : String} {key : Value} {e : Value × Value} {t : ValueType}

/-- The paths of the schema are made of names and dots, and none is the text of a number. -/
theorem schema_pathChars : ∀ e ∈ schema, e.1.toList.all isPathChar = true ∧
    ∀ word ∈ ["", "nan", "inf"], e.1 ≠ word ∧ ¬("." ++ word).toList <:+ e.1.toList := by
  decide +kernel

theorem mem_schema_of_lookup (h : schema.lookup path = some t) : (path, t) ∈ schema := by
  obtain ⟨before, after, hschema, -⟩ := List.lookup_eq_some_iff.mp h
  rw [hschema]
  exact List.mem_append_right _ List.mem_cons_self

theorem not_pathless_of_lookup (h : schema.lookup path = some t) : ¬Pathless path := by
  obtain ⟨hchars, hwords⟩ := schema_pathChars _ (mem_schema_of_lookup h)
  rintro (⟨c, hc, hpath⟩ | hword)
  · rw [List.all_eq_true.mp hchars c hc] at hpath
    cases hpath
  · exact (hwords path hword).1 rfl

theorem not_pathless_of_lookup_field {section_ name : String}
    (h : schema.lookup (section_ ++ "." ++ name) = some t) : ¬Pathless name := by
  obtain ⟨hchars, hwords⟩ := schema_pathChars _ (mem_schema_of_lookup h)
  rintro (⟨c, hc, hpath⟩ | hword)
  · rw [List.all_eq_true.mp hchars c (by simp [hc])] at hpath
    cases hpath
  · refine (hwords name hword).2 ⟨section_.toList, ?_⟩
    simp only [String.toList_append, List.append_assoc]

/-- A key that the schema knows is a text. -/
theorem text?_of_not_pathless (h : ¬Pathless key.display) : key.text? = some key.display := by
  cases htext : key.text? with
  | none => exact absurd (pathless_display htext) h
  | some name => rw [display_of_text htext]

theorem isSection_iff : isSection key = true ↔ schema.lookup key.display = some .section := by
  rw [isSection, Option.any_eq_true]
  constructor
  · rintro ⟨name, hname, h⟩
    rw [display_of_text hname]
    exact beq_iff_eq.mp h
  · intro h
    exact ⟨_, text?_of_not_pathless (not_pathless_of_lookup h), beq_iff_eq.mpr h⟩

theorem isDotted_iff : isDotted key = true ↔
    ∃ t, schema.lookup key.display = some t ∧ t ≠ .section := by
  rw [isDotted, Option.any_eq_true]
  constructor
  · rintro ⟨name, hname, h⟩
    obtain ⟨t, ht, hne⟩ := (Option.any_eq_true _ _).mp h
    rw [display_of_text hname]
    exact ⟨t, ht, bne_iff_ne.mp hne⟩
  · rintro ⟨t, ht, hne⟩
    refine ⟨_, text?_of_not_pathless (not_pathless_of_lookup ht), ?_⟩
    exact (Option.any_eq_true _ _).mpr ⟨t, ht, bne_iff_ne.mpr hne⟩

theorem isField_iff {section_ : String} : isField section_ key = true ↔
    ∃ t, schema.lookup (section_ ++ "." ++ key.display) = some t := by
  rw [isField, Option.any_eq_true]
  constructor
  · rintro ⟨name, hname, h⟩
    rw [display_of_text hname]
    exact Option.isSome_iff_exists.mp h
  · rintro ⟨t, ht⟩
    exact ⟨_, text?_of_not_pathless (not_pathless_of_lookup_field ht),
      Option.isSome_iff_exists.mpr ⟨t, ht⟩⟩

theorem unknownPaths_sectionItems (section_ : String) (entries : Entries) :
    unknownPaths (sectionItems section_ entries) =
      (entries.filter fun f => !isField section_ f.1).map fun f =>
        section_ ++ "." ++ f.1.display := by
  induction entries with
  | nil => rfl
  | cons f rest ih =>
    rw [sectionItems, List.map_cons]
    cases hpath : schema.lookup (section_ ++ "." ++ f.1.display) with
    | none =>
      have hfield : isField section_ f.1 = false := Bool.eq_false_iff.mpr fun h => by
        obtain ⟨t, ht⟩ := isField_iff.mp h
        rw [hpath] at ht
        cases ht
      rw [unknownPaths_cons_of_none hpath, List.filter_cons_of_pos (by rw [hfield]; rfl),
        List.map_cons, ← ih]
      rfl
    | some t =>
      have hfield : isField section_ f.1 = true := isField_iff.mpr ⟨t, hpath⟩
      rw [unknownPaths_cons_of_some hpath, List.filter_cons_of_neg (by simp [hfield]), ← ih]
      rfl

/-- The unknown paths of a configuration are those without a place, entry by entry, apart from keys
that are spelled as paths. -/
theorem unknownPaths_items (config : Entries) :
    unknownPaths (items config) =
      (config.filter fun e => !isDotted e.1).flatMap strayPaths := by
  induction config with
  | nil => rfl
  | cons e rest ih =>
    rw [items, List.flatMap_cons, List.cons_append]
    change unknownPaths ((e.1.display, e.2) :: (_ ++ items rest)) = _
    cases hpath : schema.lookup e.1.display with
    | none =>
      have hdotted : isDotted e.1 = false := Bool.eq_false_iff.mpr fun h => by
        obtain ⟨t, ht, -⟩ := isDotted_iff.mp h
        rw [hpath] at ht
        cases ht
      have hsection : ¬isSection e.1 = true := fun h => by
        rw [isSection_iff, hpath] at h
        cases h
      rw [unknownPaths_cons_of_none hpath, List.filter_cons_of_pos (by rw [hdotted]; rfl),
        List.flatMap_cons, ← ih, strayPaths, if_neg hsection]
      cases e.2.dict? <;> rfl
    | some t =>
      rw [unknownPaths_cons_of_some hpath, unknownPaths_append, ih]
      by_cases ht : t = .section
      · subst ht
        have hdotted : isDotted e.1 = false := Bool.eq_false_iff.mpr fun h => by
          obtain ⟨t, ht, hne⟩ := isDotted_iff.mp h
          exact hne (Option.some.inj (ht.symm.trans hpath))
        rw [List.filter_cons_of_pos (by rw [hdotted]; rfl), List.flatMap_cons, strayPaths,
          if_pos (isSection_iff.mpr hpath)]
        cases e.2.dict? with
        | none => rfl
        | some entries => exact congrArg (· ++ _) (unknownPaths_sectionItems _ _)
      · have hdotted : isDotted e.1 = true := isDotted_iff.mpr ⟨t, hpath, ht⟩
        rw [List.filter_cons_of_neg (by simp [hdotted])]
        split
        · rename_i hsection
          exact absurd (Option.some.inj hsection) ht
        · rfl

end Paths

section Placing

variable {config : Entries} {path : String} {v : Value}

/-- A value that the check looks at under a known path stands at a place, or under a key that is
spelled as a path. -/
theorem placed_of_mem_items (h : (path, v) ∈ items config) {t : ValueType}
    (hpath : schema.lookup path = some t) :
    Placed config path v ∨ ∃ e ∈ config, isDotted e.1 = true ∧ e.1.text? = some path ∧ e.2 = v := by
  obtain ⟨e, he, hitem⟩ := List.mem_flatMap.mp h
  rcases List.mem_cons.mp hitem with hitem | hitem
  · obtain ⟨rfl, rfl⟩ := Prod.mk.inj hitem
    have htext := text?_of_not_pathless (not_pathless_of_lookup hpath)
    by_cases ht : t = .section
    · subst ht
      exact .inl (.section he htext (isSection_iff.mpr hpath))
    · exact .inr ⟨e, he, isDotted_iff.mpr ⟨t, hpath, ht⟩, htext, rfl⟩
  · split at hitem
    · rename_i entries hentries hsection
      obtain ⟨f, hf, hitem⟩ := List.mem_map.mp hitem
      obtain ⟨rfl, rfl⟩ := Prod.mk.inj hitem
      exact .inl (.field he (text?_of_not_pathless (not_pathless_of_lookup hsection))
        (isSection_iff.mpr hsection) hentries hf
        (text?_of_not_pathless (not_pathless_of_lookup_field hpath)) (isField_iff.mpr ⟨t, hpath⟩))
    · exact absurd hitem List.not_mem_nil

end Placing

/-- A type is found wrong only at a place of the schema, or under a key of the configuration itself
that is spelled as a path; and where nothing is wrong, every key without a place has been reported,
in order, apart from those that are spelled as paths. -/
theorem validate_by_place (lines : List (List Char)) (config : Entries) (records : List Record) :
    (∀ f, ((validate lines config).run records).1 = some f → f.kind = .wrongType →
      (∃ t, schema.lookup f.path = some t ∧ t.admits f.value = false) ∧
        (Placed config f.path f.value ∨
          ∃ e ∈ config, isDotted e.1 = true ∧ e.1.text? = some f.path ∧ e.2 = f.value)) ∧
    (((validate lines config).run records).1 = none →
      ((validate lines config).run records).2 = records ++
        ((config.filter fun e => !isDotted e.1).flatMap strayPaths).map (ignoring lines)) := by
  constructor
  · intro f hf hkind
    obtain ⟨⟨path, v⟩, hitem, hpath, hvalue, hfits⟩ := misfit_of_validate hf hkind
    rw [hpath, hvalue]
    simp only [Fits, not_forall, Bool.not_eq_true] at hfits
    obtain ⟨t, ht, hadmits⟩ := hfits
    exact ⟨⟨t, ht, hadmits⟩, placed_of_mem_items hitem ht⟩
  · intro h
    rw [records_of_validate h, unknownPaths_items]

/-- A level that is no text, in the section it belongs to. -/
def numberedLevel : Entries := [(.str "logging", mapping [("level", .int 5)])]

/-- A key that is no section, and a section with a key that it does not have. -/
def strayKeys : Entries :=
  [(.str "theme", .str "dark"), (.str "input", mapping [("detect_encoding", .bool false),
    ("tree.format", .str "text")])]

theorem validate_by_place_stray :
    (∃ f, ((validate [] numberedLevel).run []).1 = some f ∧ f.kind = .wrongType ∧
        f.path = "logging.level" ∧
        (Placed numberedLevel f.path f.value ∨
          ∃ e ∈ numberedLevel, isDotted e.1 = true ∧ e.1.text? = some f.path ∧ e.2 = f.value)) ∧
      ((validate [] strayKeys).run []).1 = none ∧
      ((validate [] strayKeys).run []).2 =
        ["theme", "input.tree.format"].map (ignoring []) := by
  have hlevel : ((validate [] numberedLevel).run []).1 =
      some ⟨.wrongType, "logging.level", .int 5, none⟩ := rfl
  have hstray : ((validate [] strayKeys).run []).1 = none := rfl
  refine ⟨⟨_, hlevel, rfl, rfl, ((validate_by_place [] numberedLevel []).1 _ hlevel rfl).2⟩,
    hstray, ?_⟩
  rw [(validate_by_place [] strayKeys []).2 hstray]
  rfl

-- A key with a dot that is spelled as a path passes without a report.
example : (validate [] [(.str "logging.level", .str "INFO")]).run [] = (none, []) := by rfl

end LineJoin.Settings
