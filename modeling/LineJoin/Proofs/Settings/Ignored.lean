import LineJoin.Proofs.Joining.OptionsReading
import LineJoin.Proofs.Settings.Layout
import LineJoin.Proofs.Settings.Reports

/-!
# Keys that are ignored

A key that the check of settings reports has no effect on the options of a run, with one exception:
options also go by a second spelling, which the schema does not know. Such a key in the section on
line breaks is reported as ignored, and the options are read from it all the same, even against the
first spelling, since it comes after the default settings.
-/

namespace LineJoin.Settings

open Entries Value

/-! ## Some keys of a merged mapping -/

section Filtered

variable {p : Value → Bool} {key v : Value} {entries : Entries}

/-- Entries whose keys pass a test can be looked up among these alone. -/
theorem get?_filter (hp : ∀ v w : Value, v.sameKey w = true → p v = p w) (hkey : p key = true)
    (entries : Entries) : get? (entries.filter fun e => p e.1) key = get? entries key := by
  rw [get?, get?, List.find?_filter]
  congr 2
  funext e
  cases hsame : e.1.sameKey key with
  | false => simp
  | true => simp [hp _ _ hsame, hkey]

theorem filter_put (hp : ∀ v w : Value, v.sameKey w = true → p v = p w) (key v : Value)
    (entries : Entries) : (Entries.put key v entries).filter (fun e => p e.1) =
      if p key then Entries.put key v (entries.filter fun e => p e.1)
      else entries.filter fun e => p e.1 := by
  induction entries with
  | nil => cases hkey : p key <;> simp [Entries.put, hkey]
  | cons e rest ih =>
    rw [Entries.put, List.filter_cons]
    by_cases he : e.1.sameKey key = true
    · rw [if_pos he, List.filter_cons, hp _ _ he]
      cases p key with
      | false => rfl
      | true => rw [if_pos rfl, if_pos rfl, if_pos rfl, Entries.put, if_pos he]
    · rw [if_neg he, List.filter_cons, ih]
      cases p e.1 with
      | false => rfl
      | true =>
        rw [if_pos rfl, if_pos rfl]
        cases p key with
        | false => rfl
        | true => rw [if_pos rfl, if_pos rfl, Entries.put, if_neg he]

/-- Merging does to some keys what it does to these keys alone. -/
theorem filter_merge (hp : ∀ v w : Value, v.sameKey w = true → p v = p w) (base : Entries)
    (upper : List (Value × Value)) : (merge base upper).filter (fun e => p e.1) =
      merge (base.filter fun e => p e.1) (upper.filter fun e => p e.1) := by
  induction upper generalizing base with
  | nil => rfl
  | cons e rest ih =>
    obtain ⟨key, v⟩ := e
    rw [merge, ih, filter_put hp, List.filter_cons]
    cases hkey : p key with
    | false => rfl
    | true => rw [if_pos rfl, if_pos rfl, merge, get?_filter hp hkey]

end Filtered

/-! ## The entries that options are read from -/

/-- A key is the name of an option, in either spelling. -/
def isOption (key : Value) : Bool :=
  key.text?.any fun name => (Options.flagNamed? name).isSome || Options.isRulesName name

/-- The entries that options are read from. -/
def optionEntries (entries : Entries) : Entries := entries.filter fun e => isOption e.1

/-- The names of options, in both spellings. -/
def optionNames : List String :=
  ["includeHangul", "include_hangul", "includeEmoji", "include_emoji", "includeSquaredLatinAbbrs",
    "include_squared_latin_abbrs", "additionalRegexpPairs", "additional_regexp_pairs"]

/-- The paths of the options in their second spelling. -/
def secondSpellings : List String :=
  ["line_breaks.includeHangul", "line_breaks.includeEmoji",
    "line_breaks.includeSquaredLatinAbbrs", "line_breaks.additionalRegexpPairs"]

section Reading

variable {base upper base' upper' : Entries}

theorem isOption_of_sameKey (v w : Value) (h : v.sameKey w = true) : isOption v = isOption w := by
  rw [isOption, isOption, text?_of_sameKey h]

theorem optionEntries_merge (h : optionEntries base = optionEntries base')
    (hupper : optionEntries upper = optionEntries upper') :
    optionEntries (merge base upper) = optionEntries (merge base' upper') := by
  unfold optionEntries at h hupper ⊢
  rw [filter_merge isOption_of_sameKey, h, hupper, ← filter_merge isOption_of_sameKey]

/-- Options are read from entries under their names only. -/
theorem readEntries_optionEntries (entries : Entries) (o : Options) :
    (Options.readEntries (optionEntries entries) o).outcome.1 =
      (Options.readEntries entries o).outcome.1 := by
  induction entries generalizing o with
  | nil => rfl
  | cons e rest ih =>
    obtain ⟨key, value⟩ := e
    rw [Options.readEntries, optionEntries, List.filter_cons]
    cases htext : key.text? with
    | none =>
      rw [isOption, htext, Option.any_none, if_neg Bool.false_ne_true]
      dsimp only
      rw [Options.outcome_warn_bind _ fun _ => Options.appends_readEntries _ _]
      exact ih o
    | some name =>
      rw [isOption, htext, Option.any_some]
      dsimp only
      cases hflag : Options.flagNamed? name with
      | some flag =>
        rw [Option.isSome_some, Bool.true_or, if_pos rfl, Options.readEntries, htext]
        dsimp only
        rw [hflag]
        dsimp only
        rw [Logged.outcome_ofExcept_bind, Logged.outcome_ofExcept_bind]
        exact congrArg _ (funext fun o => ih o)
      | none =>
        rw [Option.isSome_none, Bool.false_or]
        dsimp only
        by_cases hrules : Options.isRulesName name = true
        · rw [if_pos hrules, if_pos hrules, Options.readEntries, htext]
          dsimp only
          rw [hflag]
          dsimp only
          rw [if_pos hrules, Logged.outcome_bind _ fun _ => Options.appends_readEntries _ _,
            Logged.outcome_bind _ fun _ => Options.appends_readEntries _ _]
          exact congrArg _ (funext fun rules => ih _)
        · rw [if_neg hrules, if_neg hrules,
            Options.outcome_warn_bind _ fun _ => Options.appends_readEntries _ _]
          exact ih o

theorem outcome_optionsOf {config entries : Entries}
    (h : named? config "line_breaks" = some (.dict entries)) :
    (optionsOf config).outcome.1 =
      (Options.readEntries (optionEntries entries) {}).outcome.1 := by
  rw [readEntries_optionEntries, optionsOf, named_eq h]
  cases entries <;> rfl

theorem mem_optionNames {name : String}
    (h : ((Options.flagNamed? name).isSome || Options.isRulesName name) = true) :
    name ∈ optionNames := by
  rcases Bool.or_eq_true_iff.mp h with h | h
  · unfold Options.flagNamed? at h
    split at h <;> first | decide | cases h
  · rcases Bool.or_eq_true_iff.mp h with h | h <;> rw [beq_iff_eq.mp h] <;> decide

theorem secondSpelling_of_isOption {section_ : String} {key : Value}
    (hname : section_ = "line_breaks") (hfield : isField section_ key = false)
    (hoption : isOption key = true) :
    section_ ++ "." ++ key.display ∈ secondSpellings := by
  subst hname
  obtain ⟨name, htext, hname⟩ := (Option.any_eq_true _ _).mp hoption
  rw [isField, htext, Option.any_some] at hfield
  rw [display_of_text htext]
  have hspelled : ∀ name ∈ optionNames,
      (schema.lookup ("line_breaks" ++ "." ++ name)).isSome = false →
        "line_breaks" ++ "." ++ name ∈ secondSpellings := by
    decide +kernel
  exact hspelled name (mem_optionNames hname) hfield

end Reading

/-! ## Without the reported keys -/

/-- Whether a key stays in a section: the schema knows it there, or options go by it. -/
def staysIn (section_ : String) (key : Value) : Bool :=
  isField section_ key || (section_ == "line_breaks" && isOption key)

/-- A configuration without the keys that the check reports, apart from second spellings of options
in the section on line breaks. -/
def withoutReported (config : Entries) : Entries :=
  (config.filter fun e => (schema.lookup e.1.display).isSome).map fun e =>
    match e.2.dict?, schema.lookup e.1.display with
    | some entries, some .section => (e.1, .dict (entries.filter fun f => staysIn e.1.display f.1))
    | _, _ => e

section Removal

variable {base base' config entries entries' : Entries}

theorem optionEntries_staysIn (entries : Entries) :
    optionEntries (entries.filter fun f => staysIn "line_breaks" f.1) = optionEntries entries := by
  rw [optionEntries, List.filter_filter]
  refine List.filter_congr fun f _ => ?_
  rw [staysIn, beq_self_eq_true, Bool.true_and]
  cases isOption f.1 <;> simp

/-- The section on line breaks comes out of merging with the same options, whether the reported keys
are there or not. -/
theorem section_merge_withoutReported (hfits : ∀ e ∈ config, FitsEntry e)
    (hbase : named? base "line_breaks" = some (.dict entries))
    (hbase' : named? base' "line_breaks" = some (.dict entries'))
    (hsame : optionEntries entries = optionEntries entries') :
    ∃ merged merged', named? (merge base config) "line_breaks" = some (.dict merged) ∧
      named? (merge base' (withoutReported config)) "line_breaks" = some (.dict merged') ∧
      optionEntries merged = optionEntries merged' := by
  induction config generalizing base base' entries entries' with
  | nil => exact ⟨entries, entries', hbase, hbase', hsame⟩
  | cons e rest ih =>
    obtain ⟨key, v⟩ := e
    obtain ⟨hentry, hrest⟩ := List.forall_mem_cons.mp hfits
    rw [merge, withoutReported, List.filter_cons]
    by_cases htext : key.text? = some "line_breaks"
    · -- The section itself: both are laid over the section so far.
      have hpath : schema.lookup key.display = some .section := by
        rw [display_of_text htext]
        rfl
      obtain ⟨inner, hinner⟩ := Option.isSome_iff_exists.mp (hentry.value _ hpath)
      have hold {base entries : Entries} (h : named? base "line_breaks" = some (.dict entries)) :
          (get? base key).bind dict? = some entries := by
        rw [get?_of_text htext, h]
        rfl
      rw [hpath, Option.isSome_some, if_pos rfl, List.map_cons, hpath,
        show (key, v).2.dict? = some inner from hinner, merge]
      refine ih hrest (by rw [named?_put, if_pos htext, overlay_dict (hold hbase) hinner])
        (by rw [named?_put, if_pos htext, overlay_dict (hold hbase') rfl]) ?_
      rw [display_of_text htext]
      exact optionEntries_merge hsame (optionEntries_staysIn inner).symm
    · have hput {base entries : Entries} (w : Value)
          (h : named? base "line_breaks" = some (.dict entries)) :
          named? (Entries.put key w base) "line_breaks" = some (.dict entries) := by
        rw [named?_put, if_neg htext, h]
      split
      · rw [List.map_cons]
        split <;> exact ih hrest (hput _ hbase) (hput _ hbase') hsame
      · exact ih hrest (hput _ hbase) hbase' hsame

/-- Of the keys that are reported only second spellings of options are left. -/
theorem unknownPaths_withoutReported {path : String}
    (h : path ∈ unknownPaths (items (withoutReported config))) : path ∈ secondSpellings := by
  rw [unknownPaths_items] at h
  obtain ⟨e, he, hpath⟩ := List.mem_flatMap.mp h
  obtain ⟨he, hdotted⟩ := List.mem_filter.mp he
  obtain ⟨g, hg, rfl⟩ := List.mem_map.mp he
  obtain ⟨t, ht⟩ := Option.isSome_iff_exists.mp (List.mem_filter.mp hg).2
  split at hpath
  · rename_i entries _ hsection
    rw [strayPaths, if_pos (isSection_iff.mpr hsection)] at hpath
    obtain ⟨f, hf, rfl⟩ := List.mem_map.mp hpath
    obtain ⟨hf, hfield⟩ := List.mem_filter.mp hf
    have hstays := (List.mem_filter.mp hf).2
    rw [Bool.not_eq_true'] at hfield
    rw [staysIn, hfield, Bool.false_or, Bool.and_eq_true, beq_iff_eq] at hstays
    obtain ⟨hname, hoption⟩ := hstays
    exact secondSpelling_of_isOption hname hfield hoption
  · rename_i hnone
    rw [Bool.not_eq_true', Bool.eq_false_iff] at hdotted
    by_cases hsection : t = .section
    · subst hsection
      rw [strayPaths, if_pos (isSection_iff.mpr ht)] at hpath
      split at hpath
      · rename_i entries hentries
        exact absurd ht (hnone entries hentries)
      · exact absurd hpath List.not_mem_nil
    · refine absurd (isDotted_iff.mpr ⟨t, ?_, hsection⟩) hdotted
      split <;> exact ht

end Removal

/-- A configuration in which nothing is found wrong has been reported upon in full, and gives the same
options, or the same error, without the keys that are reported, apart from second spellings of options
in the section on line breaks. -/
theorem optionsOf_withoutReported (lines : List (List Char)) (config : Entries)
    (records : List Record) (h : ((validate lines config).run records).1 = none) :
    ((validate lines config).run records).2 =
        records ++ (unknownPaths (items config)).map (ignoring lines) ∧
      (optionsOf (merge defaults (withoutReported config))).outcome.1 =
        (optionsOf (merge defaults config)).outcome.1 ∧
      ∀ path ∈ unknownPaths (items (withoutReported config)), path ∈ secondSpellings := by
  have hdefaults : ∃ entries, named? defaults "line_breaks" = some (.dict entries) := ⟨_, rfl⟩
  obtain ⟨entries, hentries⟩ := hdefaults
  obtain ⟨merged, merged', hmerged, hmerged', hsame⟩ :=
    section_merge_withoutReported (validate_eq_none_iff.mp h).1 hentries hentries rfl
  refine ⟨records_of_validate h, ?_, fun path => unknownPaths_withoutReported⟩
  rw [outcome_optionsOf hmerged, outcome_optionsOf hmerged', hsame]

/-- Settings with a key that is reported and has no effect, and one that is reported and has. -/
def reportedKeys : Entries :=
  [(.str "line_breaks", mapping [("includeEmoji", .bool true), ("include_kana", .bool true)]),
    (.str "theme", .str "dark")]

theorem optionsOf_withoutReported_emoji :
    ((validate [] reportedKeys).run []).1 = none ∧
      ((validate [] reportedKeys).run []).2 = ["line_breaks.includeEmoji",
        "line_breaks.include_kana", "theme"].map (ignoring []) ∧
      (optionsOf (merge defaults reportedKeys)).outcome.1 =
        .ok { extensions := { emoji := true } } ∧
      (optionsOf (merge defaults
          [(.str "line_breaks", mapping [("includeEmoji", .bool true)])])).outcome.1 =
        (optionsOf (merge defaults reportedKeys)).outcome.1 := by
  have hnone : ((validate [] reportedKeys).run []).1 = none := rfl
  obtain ⟨hrecords, hsame, -⟩ := optionsOf_withoutReported [] reportedKeys [] hnone
  exact ⟨hnone, hrecords, rfl, hsame⟩

end LineJoin.Settings
