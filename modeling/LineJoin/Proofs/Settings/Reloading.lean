import LineJoin.Joining.Rewrite
import LineJoin.Proofs.Encoding.Utf8
import LineJoin.Proofs.Files.Changes
import LineJoin.Proofs.Settings.Settled
import LineJoin.Proofs.Value.Equality
import LineJoin.Settings.Save

/-!
# Reloading saved settings

Settings that are saved and loaded again are the same outside of the section on line breaks, and that
section gives options with the same patterns. The default settings leave what is saved as it is, since
nothing is missing in it, and the check finds nothing wrong with it.
-/

namespace LineJoin

open Logged

namespace Rule

/-- A rule without empty fragments. -/
def trimmed (r : Rule) : Rule := ⟨r.before.bind side, r.after.bind side⟩

theorem sidePattern_trimmed (unit : String) (fragment : Option String) :
    sidePattern unit (fragment.bind side) = sidePattern unit fragment := by
  cases fragment with
  | none => rfl
  | some s =>
    rw [Option.bind_some, side]
    by_cases hs : s = ""
    · rw [if_pos hs, hs]
      rfl
    · rw [if_neg hs]

theorem patternText_trimmed (r : Rule) (unit : String) :
    r.trimmed.patternText unit = r.patternText unit := by
  rw [patternText, patternText, trimmed, sidePattern_trimmed, sidePattern_trimmed]

end Rule

namespace Options

/-- The texts that are read as patterns, in this order. -/
def patternTexts (o : Options) : List String :=
  o.rules.map fun r => r.patternText (Units.unitText o.extensions)

/-- Only the texts of the patterns decide which patterns there are. -/
theorem toOption_compileRules (o : Options) :
    (compileRules o).toOption = o.patternTexts.mapM fun t => (Pattern.read t.toList).toOption := by
  rw [compileRules, patternTexts]
  induction o.rules with
  | nil => rfl
  | cons r rest ih =>
    rw [List.mapM_cons, List.map_cons, List.mapM_cons, ← ih, Rule.compile]
    cases Pattern.read (r.patternText (Units.unitText o.extensions)).toList with
    | error fault => rfl
    | ok p =>
      cases rest.mapM fun r => r.compile (Units.unitText o.extensions) with
      | error fault => rfl
      | ok ps => rfl

/-- Options without empty fragments. -/
def trimmed (o : Options) : Options :=
  { o with additionalRules := o.additionalRules.map Rule.trimmed }

theorem patternTexts_trimmed (o : Options) : o.trimmed.patternTexts = o.patternTexts := by
  have hrules : o.trimmed.rules = o.rules.map Rule.trimmed := by
    rw [rules, rules, trimmed, List.isEmpty_map]
    split <;> rfl
  rw [patternTexts, patternTexts, hrules, List.map_map]
  exact List.map_congr_left fun r _ => r.patternText_trimmed _

theorem readRule_ruleMapping (key : String) (index : Nat) (r : Rule) :
    (readRule key index (Settings.ruleMapping r)).outcome.1 = .ok r.trimmed := by
  obtain ⟨before, after⟩ := r
  cases before <;> cases after <;> rfl

theorem readItems_ruleMappings (key : String) (index : Nat) (rules : List Rule) :
    (readItems key index (rules.map Settings.ruleMapping)).outcome.1 =
      .ok (rules.map Rule.trimmed) := by
  induction rules generalizing index with
  | nil => rfl
  | cons r rest ih =>
    rw [List.map_cons, readItems, outcome_bind _ fun _ =>
      (appends_readItems _).bind fun _ => appends_pure _, readRule_ruleMapping, ok_bind,
      outcome_bind _ fun _ => appends_pure _, ih]
    rfl

/-- The section that is made from options gives them again, without empty fragments. -/
theorem ofValue_optionsSection (o : Options) :
    (ofValue (Settings.optionsSection o)).outcome.1 = .ok o.trimmed := by
  obtain ⟨⟨hangul, emoji, squared⟩, rules⟩ := o
  change ((readRules "additional_regexp_pairs" (.list (rules.map Settings.ruleMapping)) >>=
    fun rules => pure { extensions := ⟨hangul, emoji, squared⟩, additionalRules := rules } :
      Logged OptionsError Options)).outcome.1 = _
  rw [outcome_bind _ fun _ => appends_pure _]
  change ((readItems _ 0 (rules.map Settings.ruleMapping)).outcome.1 >>= _) = _
  rw [readItems_ruleMappings]
  rfl

end Options

namespace Settings

open Entries Value

variable {config entries : Entries} {names : List String} {name : String} {key v : Value}

/-! ## Settings over the default ones -/

/-- A mapping that has all the fields in their places stays as it is over them, if its values do. -/
theorem merge_begins {fields : List (String × Value)} (h : Begins (fields.map (·.1)) entries)
    (hkeep : ∀ f ∈ fields, ∀ v, named? entries f.1 = some v → overlay (some f.2) v = v) :
    merge (ofFields fields) entries = entries := by
  obtain ⟨present, more, hentries, hnames, hnodup, hapart⟩ := h.split
  have hothers : others (fields.map (·.1)) entries = more := by
    rw [hentries, ← hnames, others_ofFields, hnames, others_of_apart hapart]
  have hpresent (g : String × Value) (hg : g ∈ present) : named entries g.1 = g.2 := by
    rw [hentries, named, named?_append, named?_field (hnames ▸ hnodup) hg]
    rfl
  have hlaid (f : String × Value) (hf : f ∈ fields) :
      laidOver entries f = (f.1, named entries f.1) := by
    obtain ⟨v, hv⟩ := h.named? (List.mem_map_of_mem hf)
    rw [laidOver, named_eq hv, hv]
    exact congrArg (f.1, ·) (hkeep f hf v hv)
  have hfields : fields.map (laidOver entries) = present := calc
    fields.map (laidOver entries)
    _ = (fields.map (·.1)).map fun name => (name, named entries name) := by
      rw [List.map_map]
      exact List.map_congr_left hlaid
    _ = present.map fun g => (g.1, named entries g.1) := by
      rw [← hnames, List.map_map]
      rfl
    _ = present := by
      refine (List.map_congr_left fun g hg => ?_).trans (List.map_id present)
      rw [hpresent g hg]
      rfl
  rw [merge_ofFields hnodup h.distinct, hfields, hothers, hentries]

/-- The default settings add nothing to settings that are formed. -/
theorem Formed.merge_plain (h : Formed config) :
    merge defaults (plainEntries config) = plainEntries config := by
  have hnames : (Settings.sections.map fun s => (s.1, Value.dict (ofFields s.2))).map (·.1) =
      Settings.sections.map (·.1) := by
    rw [List.map_map]
    rfl
  rw [defaults_eq]
  refine merge_begins (hnames ▸ h.begins.plain) fun f hf v hv => ?_
  obtain ⟨s, hs, rfl⟩ := List.mem_map.mp hf
  obtain ⟨entries, hentries, hbegins⟩ := h.sections s hs
  have hsection : v = .dict (plainEntries entries) := by
    rw [← named_eq hv, named_plain, plain_of_dict? hentries]
  rw [hsection, overlay_dict rfl rfl]
  refine congrArg Value.dict (merge_begins (hbegins.plain) fun f hf v _ => ?_)
  exact overlay_of_old (show (some f.2).bind dict? = none from dict?_default s hs f hf) v

/-! ## The check -/

theorem admits_plain {t : ValueType} : ∀ v : Value, t.admits v.plain = t.admits v
  | .shared _ v => by
    have h := admits_plain (t := t) v
    cases t <;> exact h
  | .null | .bool _ | .int _ | .float _ | .str _ | .bytes _ | .list _ | .tuple _ | .set _
  | .dict _ | .frozen _ | .object _ | .rule _ | .day _ | .moment _ => by cases t <;> rfl

theorem fits_plain {path : String} : Fits path v.plain ↔ Fits path v := by
  simp only [Fits, admits_plain]

theorem fitsEntry_plain {e : Value × Value} :
    FitsEntry (e.1.plain, e.2.plain) ↔ FitsEntry e := by
  constructor
  · rintro ⟨hvalue, hinside⟩
    rw [display_plain, fits_plain] at hvalue
    refine ⟨hvalue, fun hsection entries hentries f hf => ?_⟩
    have hfit := hinside (by rwa [display_plain]) (plainEntries entries)
      (by rw [dict?_plain, hentries, Option.map_some]) (f.1.plain, f.2.plain)
      (by rw [plainEntries_eq]; exact List.mem_map_of_mem hf)
    rwa [display_plain, display_plain, fits_plain] at hfit
  · rintro ⟨hvalue, hinside⟩
    refine ⟨by rwa [display_plain, fits_plain], fun hsection entries hentries f hf => ?_⟩
    rw [display_plain] at hsection ⊢
    rw [dict?_plain] at hentries
    obtain ⟨inner, hinner, rfl⟩ := Option.map_eq_some_iff.mp hentries
    rw [plainEntries_eq] at hf
    obtain ⟨g, hg, rfl⟩ := List.mem_map.mp hf
    rw [display_plain, fits_plain]
    exact hinside hsection inner hinner g hg

theorem fitsEntries_plain :
    (∀ e ∈ plainEntries entries, FitsEntry e) ↔ ∀ e ∈ entries, FitsEntry e := by
  rw [plainEntries_eq, List.forall_mem_map]
  simp only [fitsEntry_plain]

theorem valueOf_plain (config : Entries) (name key : String) :
    valueOf (plainEntries config) name key = (valueOf config name key).plain := by
  rw [valueOf, valueOf, named_plain, mapping?_plain]
  cases (named config name).mapping? with
  | none => rfl
  | some entries => exact named_plain entries key

theorem isChosen_plain {admitted : List String} {name key : String} :
    IsChosen (plainEntries config) name key admitted ↔ IsChosen config name key admitted := by
  rw [IsChosen, IsChosen, valueOf_plain, text?_plain]

/-- Whatever is the same as settled settings, apart from marks, passes the check. -/
theorem Settled.passes (h : Settled config) (hplain : plainEntries entries = plainEntries config)
    (text : List Char) : Passes text entries := by
  have hfits : ∀ e ∈ entries, FitsEntry e := by
    rw [← fitsEntries_plain, hplain, fitsEntries_plain]
    exact h.fits
  have hchosen {name key : String} {admitted : List String}
      (h : IsChosen config name key admitted) : IsChosen entries name key admitted :=
    isChosen_plain.mp (hplain ▸ isChosen_plain.mpr h)
  exact validate_eq_none_iff.mpr ⟨hfits, checkChoice_eq_none_iff.mpr (.inr (hchosen h.format)),
    checkChoice_eq_none_iff.mpr (.inr (hchosen h.level))⟩

/-! ## Saving and loading -/

/-- The keys of the section on line breaks, with the values that give options. -/
def optionFields (o : Options) : List (String × Value) :=
  [("include_hangul", .bool o.extensions.hangul), ("include_emoji", .bool o.extensions.emoji),
    ("include_squared_latin_abbrs", .bool o.extensions.squared),
    ("additional_regexp_pairs", .list (o.additionalRules.map ruleMapping))]

theorem optionsSection_eq (o : Options) : optionsSection o = .dict (ofFields (optionFields o)) :=
  rfl

theorem section_lineBreaks : ∃ s ∈ sections, s.1 = "line_breaks" ∧
    s.2.map (·.1) = ["include_hangul", "include_emoji", "include_squared_latin_abbrs",
      "additional_regexp_pairs"] := by decide

theorem fits_optionFields (o : Options) :
    ∀ f ∈ optionFields o, Fits ("line_breaks" ++ "." ++ f.1) f.2 := by
  have hfits {path : String} {v : Value} {t : ValueType} (hpath : schema.lookup path = some t)
      (hv : t.admits v = true) : Fits path v := fun t' ht' => by
    cases hpath.symm.trans ht'
    exact hv
  simp only [optionFields, List.forall_mem_cons]
  exact ⟨hfits (t := .bool) (by decide +kernel) rfl, hfits (t := .bool) (by decide +kernel) rfl,
    hfits (t := .bool) (by decide +kernel) rfl, hfits (t := .listOrNull) (by decide +kernel) rfl,
    fun _ h => absurd h List.not_mem_nil⟩

theorem valueOf_putNamed_of_ne {other : String} (h : name ≠ other) (config : Entries) (v : Value)
    (key : String) : valueOf (config.putNamed name v) other key = valueOf config other key := by
  rw [valueOf, named_putNamed, if_neg h]
  rfl

/-- What is saved for a run is settled when the settings of the run are. -/
theorem Settled.effective (h : Settled config) (o : Options) : Settled (effective config o) := by
  obtain ⟨s, hs, hname, hkeys⟩ := section_lineBreaks
  have hfields : (optionFields o).map (·.1) = s.2.map (·.1) := hkeys ▸ rfl
  rw [Settings.effective, optionsSection_eq, ← hname]
  refine ⟨h.toFormed.putNamed hs rfl ?_ ?_, ?_, ?_⟩
  · rw [← hfields]
    exact begins_ofFields (hfields ▸ nodup_section s hs)
  · intro e he
    obtain ⟨f, hf, rfl⟩ := List.mem_map.mp he
    rw [hname]
    exact fits_optionFields o f hf
  · rw [IsChosen, valueOf_putNamed_of_ne (by rw [hname]; decide)]
    exact h.format
  · rw [IsChosen, valueOf_putNamed_of_ne (by rw [hname]; decide)]
    exact h.level

theorem others_putNamed (hname : name ∈ names) (config : Entries) (v : Value) :
    others names (config.putNamed name v) = others names config := by
  have hdrop {e : Value × Value} (he : e.1.text? = some name) (after : Entries) :
      others names (e :: after) = others names after := by
    rw [others_cons, if_pos ⟨name, hname, he⟩]
  rw [putNamed]
  rcases put_cases (.str name) v config with ⟨before, e, after, rfl, he, -, hput⟩ | ⟨-, hput⟩
  · have htext : e.1.text? = some name := text?_of_sameKey he
    rw [hput, others_append, others_append, hdrop htext, hdrop (e := (e.1, v)) htext]
  · rw [hput, others_append, hdrop (e := (.str name, v)) rfl]
    exact List.append_nil _

/-- What has been saved is the text of the file. -/
theorem read_of_save {disk after : Files} {p : Path} {b : Bool}
    (h : save disk p b v = (after, .ok ())) (shown : String) :
    ∃ text, Yaml.write v = .ok text ∧ after.read p shown = .ok text.toUTF8.toList := by
  rw [save] at h
  split at h
  · cases h
  · rename_i text htext
    refine ⟨text, htext, ?_⟩
    rw [saveText] at h
    dsimp only at h
    split at h
    · cases h
    · split at h
      · cases h
      · rename_i hwrite
        cases h
        exact Files.read_of_write hwrite shown

end Settings

/-- A value that is read back from its YAML text, apart from marks. -/
def Yaml.Restores (v : Value) : Prop :=
  ∀ text, Yaml.write v = .ok text →
    ∃ w, Yaml.read (unifyBreaks text.toList) = .ok w ∧ w.plain = v.plain

namespace Settings

open Entries Value

/-- Settled settings that are saved and read back are loaded as they are. -/
theorem load_of_save {config : Entries} {disk after : Files} {p : Path} {b : Bool}
    (h : Settled config) (hyaml : Yaml.Restores (.dict config))
    (hsave : save disk p b (.dict config) = (after, .ok ())) :
    ∃ reloaded, (load after (some p)).outcome.1 = .ok reloaded ∧
      plainEntries reloaded = plainEntries config := by
  obtain ⟨text, hwrite, hfile⟩ := read_of_save hsave p.text
  obtain ⟨w, hread, hw⟩ := hyaml text hwrite
  have htext : textOf text.toUTF8.toList = .ok (unifyBreaks text.toList) := by
    rw [textOf, Encoding.Utf8.decode_toUTF8]
    rfl
  have hdict : w.dict?.map plainEntries = some (plainEntries config) := by
    rw [← dict?_plain, hw]
    rfl
  obtain ⟨entries, hentries, hplain⟩ := Option.map_eq_some_iff.mp hdict
  refine ⟨merge defaults entries, load_eq_ok_iff.mpr
    (.merged hfile htext (.mapping hread hentries) (h.passes hplain _)), ?_⟩
  calc plainEntries (merge defaults entries)
    _ = merge (plainEntries defaults) (plainEntries entries) := plainEntries_merge _ _
    _ = merge defaults (plainEntries config) := by rw [hplain]; rfl
    _ = plainEntries config := h.toFormed.merge_plain

/-- The section that has been made from options gives these, without empty fragments. -/
theorem optionsOf_effective {config reloaded : Entries} {o : Options}
    (h : plainEntries reloaded = plainEntries (effective config o)) :
    (optionsOf reloaded).outcome.1 = .ok o.trimmed := by
  have hsection : (named reloaded "line_breaks").plain = (optionsSection o).plain := by
    rw [← named_plain, h, named_plain, effective, named_putNamed, if_pos rfl]
  have htruthy : (named reloaded "line_breaks").truthy = true := by
    rw [← truthy_plain, hsection, truthy_plain]
    rfl
  rw [optionsOf, htruthy, ← Options.ofValue_plain]
  change (Options.ofValue (named reloaded "line_breaks").plain).outcome.1 = _
  rw [hsection, Options.ofValue_plain, Options.ofValue_optionsSection]

/-- Settings of a run that have been saved are loaded again with the same values outside of the section
on line breaks. The options that this gives have the same extensions and the same patterns. -/
theorem saved_settings_reload {files disk after : Files} {args : List String} {a : Arguments}
    {config : Entries} {o : Options} {p : Path} {b : Bool}
    (hread : Arguments.read args = .ok a) (hsetUp : (setUp files a).outcome.1 = .ok (config, o))
    (hyaml : Yaml.Restores (.dict (effective config o)))
    (hsave : save disk p b (.dict (effective config o)) = (after, .ok ())) :
    ∃ reloaded o', (load after (some p)).outcome.1 = .ok reloaded ∧
      others ["line_breaks"] (plainEntries reloaded) =
        others ["line_breaks"] (plainEntries config) ∧
      (optionsOf reloaded).outcome.1 = .ok o' ∧ o'.extensions = o.extensions ∧
      o'.patternTexts = o.patternTexts ∧
      (compileRules o').toOption = (compileRules o).toOption := by
  have hsettled := settled_of_setUp (Arguments.chosen_of_read hread) hsetUp
  obtain ⟨reloaded, hload, hplain⟩ := load_of_save (hsettled.effective o) hyaml hsave
  have htexts : o.trimmed.patternTexts = o.patternTexts := o.patternTexts_trimmed
  refine ⟨reloaded, o.trimmed, hload, ?_, optionsOf_effective hplain, rfl, htexts, ?_⟩
  · have hput : plainEntries (effective config o) =
        putNamed (plainEntries config) "line_breaks" (optionsSection o).plain :=
      (put_plain _ _ _).symm
    rw [hplain, hput, others_putNamed (List.mem_singleton.mpr rfl)]
  · rw [Options.toOption_compileRules, Options.toOption_compileRules, htexts]

/-! ### Settings with other spellings -/

/-- The text of a settings file that uses other spellings and leaves out most keys. -/
def aliasedSource : String :=
  "line_breaks: \x7bincludeHangul: true\x7d\ninput: \x7bconfidence_threshold: 1\x7d\n"

def aliasedFiles : Files := [(["cjk_linebreak.yml"], .file aliasedSource.toUTF8.toList)]

def aliasedSettings : Entries :=
  merge defaults [(.str "line_breaks", .dict [(.str "includeHangul", .bool true)]),
    (.str "input", .dict [(.str "confidence_threshold", .int 1)])]

theorem loads_aliasedFiles :
    Loads aliasedFiles (some (.ofText "cjk_linebreak.yml")) aliasedSettings := by
  have hfile : aliasedFiles.read (.ofText "cjk_linebreak.yml") "cjk_linebreak.yml" =
      .ok aliasedSource.toUTF8.toList := by
    decide +kernel
  have htext : textOf aliasedSource.toUTF8.toList = .ok aliasedSource.toList := by
    rw [textOf, Encoding.Utf8.decode_toUTF8]
    decide +kernel
  have hread : Yaml.read aliasedSource.toList =
      .ok (.dict [(.str "line_breaks", .dict [(.str "includeHangul", .bool true)]),
        (.str "input", .dict [(.str "confidence_threshold", .int 1)])]) := by
    decide +kernel
  exact .merged hfile htext (.mapping hread rfl) rfl

/-- The rules of a command line with an empty fragment. -/
def aliasedArguments : Arguments :=
  { filepath := some "in.txt", rules := [{ before := some "" }, { after := some "[(]" }] }

def aliasedOptions : Options :=
  { extensions := { hangul := true }, additionalRules := aliasedArguments.rules }

def aliasedText : String := "line_breaks:
  include_hangul: true
  include_emoji: false
  include_squared_latin_abbrs: false
  additional_regexp_pairs:
  - before_break: ''
  - after_break: '[(]'
input:
  default_encoding: utf-8
  detect_encoding: true
  confidence_threshold: 1
  tree_format: text
logging:
  level: INFO
  format: '%(asctime)s - %(name)s - %(levelname)s - %(message)s'
  file_enabled: false
  file_path: cjk_linebreak.log
"

theorem write_aliased :
    Yaml.write (.dict (effective aliasedSettings aliasedOptions)) = .ok aliasedText := by
  have h : (Yaml.write (.dict (effective aliasedSettings aliasedOptions))).toOption =
      some aliasedText := by decide +kernel
  cases hwrite : Yaml.write (.dict (effective aliasedSettings aliasedOptions)) with
  | error u =>
    rw [hwrite] at h
    cases h
  | ok text =>
    rw [hwrite] at h
    exact congrArg _ (Option.some.inj h)

set_option maxRecDepth 8000 in
theorem restores_aliased :
    Yaml.Restores (.dict (effective aliasedSettings aliasedOptions)) := by
  intro text htext
  cases write_aliased.symm.trans htext
  refine ⟨.dict (effective aliasedSettings aliasedOptions), ?_, rfl⟩
  rw [aliasedText, String.toList_ofList]
  decide +kernel

theorem saved_settings_reload_aliased :
    Arguments.read ["--before", "", "--after", "[(]", "in.txt"] = .ok aliasedArguments ∧
      (setUp aliasedFiles aliasedArguments).outcome.1 = .ok (aliasedSettings, aliasedOptions) ∧
      Yaml.Restores (.dict (effective aliasedSettings aliasedOptions)) ∧
      ∃ after, save aliasedFiles (.ofText "saved.yml") true
          (.dict (effective aliasedSettings aliasedOptions)) = (after, .ok ()) ∧
        ∃ reloaded o', (load after (some (.ofText "saved.yml"))).outcome.1 = .ok reloaded ∧
          (optionsOf reloaded).outcome.1 = .ok o' ∧ o'.extensions = aliasedOptions.extensions ∧
          o'.patternTexts = aliasedOptions.patternTexts := by
  have hread : Arguments.read ["--before", "", "--after", "[(]", "in.txt"] =
      .ok aliasedArguments := rfl
  have hsetUp : (setUp aliasedFiles aliasedArguments).outcome.1 =
      .ok (aliasedSettings, aliasedOptions) :=
    setUp_eq_ok_iff.mpr ⟨_, { extensions := { hangul := true } }, loads_aliasedFiles, rfl, rfl, rfl⟩
  have hsave : save aliasedFiles (.ofText "saved.yml") true
      (.dict (effective aliasedSettings aliasedOptions)) =
        (aliasedFiles ++ [(["saved.yml"], .file aliasedText.toUTF8.toList)], .ok ()) := by
    rw [save, write_aliased]
    rfl
  obtain ⟨reloaded, o', hload, -, hoptions, hextensions, htexts, -⟩ :=
    saved_settings_reload hread hsetUp restores_aliased hsave
  exact ⟨hread, hsetUp, restores_aliased, _, hsave, reloaded, o', hload, hoptions, hextensions,
    htexts⟩

end Settings

end LineJoin
