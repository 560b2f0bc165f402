import LineJoin.Proofs.Arguments.Choices
import LineJoin.Proofs.Joining.OptionsReading
import LineJoin.Proofs.Settings.Layout
import LineJoin.Proofs.Settings.Loading
import LineJoin.Proofs.Yaml.Mappings

/-!
# Settled settings

Loaded settings are formed, and what is chosen from a list is in it. So are the settings of a run,
where the command line has its say, and those that are saved for a later one.
-/

namespace LineJoin.Settings

open Entries Value

variable {files : Files} {config upper entries : Entries} {s : String × List (String × Value)}
  {f : String × Value} {v : Value} {key name other : String} {admitted : List String}

/-- The value of a key is a text of the list. -/
def IsChosen (config : Entries) (name key : String) (admitted : List String) : Prop :=
  ∃ t ∈ admitted, (valueOf config name key).text? = some t

structure Settled (config : Entries) : Prop extends Formed config where
  format : IsChosen config "input" "tree_format" treeFormats
  level : IsChosen config "logging" "level" logLevels

theorem valueOf_eq (h : (named config name).dict? = some entries) (key : String) :
    valueOf config name key = named entries key := by
  rw [valueOf, mapping?_of_dict? h]

/-- Every key of a section is there, and its value is the one that is looked up. -/
theorem Formed.value (h : Formed config) (hs : s ∈ Settings.sections) (hf : f ∈ s.2) :
    ∃ entries, (named config s.1).dict? = some entries ∧
      named? entries f.1 = some (valueOf config s.1 f.1) ∧
      Fits (s.1 ++ "." ++ f.1) (valueOf config s.1 f.1) := by
  obtain ⟨entries, hentries, hbegins⟩ := h.sections s hs
  obtain ⟨v, hv⟩ := hbegins.named? (List.mem_map_of_mem hf)
  rw [valueOf_eq hentries, named_eq hv]
  obtain ⟨e, he, hname, rfl⟩ := mem_of_named? hv
  exact ⟨entries, hentries, hv, display_of_text hname ▸ h.inside hs hentries e he⟩

/-! ## Values that are put into sections -/

theorem valueOf_putIn (h : (named config name).dict? = some entries) (key : String) (v : Value)
    (name' key' : String) : valueOf (putIn config name key v) name' key' =
      if name = name' ∧ key = key' then v else valueOf config name' key' := by
  rw [putIn, h]
  dsimp only
  rw [valueOf, named_putNamed]
  by_cases hname : name = name'
  · subst hname
    rw [if_pos rfl, valueOf_eq h]
    dsimp only [mapping?]
    rw [named_putNamed]
    simp only [true_and]
  · rw [if_neg hname, if_neg fun h => hname h.1]
    rfl

theorem Formed.putTextIn (h : Formed config) (hname : name ∈ Settings.sections.map (·.1))
    (hkey : schema.lookup (name ++ "." ++ key) = some .text) (text : Option String) :
    Formed (putTextIn config name key text) := by
  obtain ⟨s, hs, rfl⟩ := List.mem_map.mp hname
  cases text with
  | none => exact h
  | some t =>
    rw [Settings.putTextIn]
    split
    · exact h
    · refine h.putIn hs fun type htype => ?_
      cases hkey.symm.trans htype
      rfl

theorem IsChosen.putTextIn {name' key' : String} (h : IsChosen config name' key' admitted)
    (hformed : Formed config) (hname : name ∈ sections.map (·.1)) {text : Option String}
    (htext : name = name' → key = key' → ∀ t, text = some t → t ∈ admitted) :
    IsChosen (putTextIn config name key text) name' key' admitted := by
  obtain ⟨s, hs, rfl⟩ := List.mem_map.mp hname
  obtain ⟨entries, hentries, -⟩ := hformed.sections s hs
  cases text with
  | none => exact h
  | some t =>
    rw [Settings.putTextIn]
    split
    · exact h
    · rw [IsChosen, valueOf_putIn hentries]
      split
      · rename_i hsame
        exact ⟨t, htext hsame.1 hsame.2 t rfl, rfl⟩
      · exact h

/-- Settings stay settled under what the command line asks for. -/
theorem Settled.overrideConfig (h : Settled config) {a : Arguments} (ha : a.Chosen) :
    Settled (overrideConfig a config) := by
  have hinput : "input" ∈ Settings.sections.map (·.1) := by decide
  have hlogging : "logging" ∈ Settings.sections.map (·.1) := by decide
  have hformed : Formed (Settings.putTextIn config "logging" "level" a.logLevel) :=
    h.toFormed.putTextIn hlogging (by decide +kernel) a.logLevel
  refine ⟨hformed.putTextIn hinput (by decide +kernel) a.treeFormat, ?_, ?_⟩
  · refine IsChosen.putTextIn ?_ hformed hinput fun _ _ => ha.format
    exact h.format.putTextIn h.toFormed hlogging fun hname => absurd hname (by decide)
  · refine IsChosen.putTextIn ?_ hformed hinput fun hname => absurd hname (by decide)
    exact h.level.putTextIn h.toFormed hlogging fun _ _ => ha.level

/-! ## Loaded settings -/

theorem Holds.distinctInside {text : List Char} (h : Holds text entries) :
    DistinctInside entries := by
  cases h with
  | mapping hread hentries =>
    rcases Yaml.ofNode_of_read hread with rfl | hnode
    · cases hentries
    · obtain ⟨hdistinct, hinside⟩ := hnode.entries hentries
      exact ⟨hdistinct, fun e he inner hinner => ((hinside e he).entries hinner).1⟩
  | nothing => exact ⟨List.Pairwise.nil, fun _ h => absurd h List.not_mem_nil⟩

/-- A value of the merged settings is the default one, or comes from a mapping where it fits. -/
theorem valueOf_merge (hupper : DistinctInside upper) (hfits : ∀ e ∈ upper, FitsEntry e)
    (hs : s ∈ sections) (hf : f ∈ s.2) :
    valueOf (merge defaults upper) s.1 f.1 = f.2 ∨
      valueOf (merge defaults upper) s.1 f.1 = valueOf upper s.1 f.1 ∧
        Fits (s.1 ++ "." ++ f.1) (valueOf upper s.1 f.1) := by
  obtain ⟨inner, hlaid, hdistinct, hinside, hinner⟩ := laidOver_section hupper hfits hs
  have hsection : (named (merge defaults upper) s.1).dict? =
      some (merge (ofFields s.2) inner) := by
    rw [named_merge hupper.distinct hs, hlaid]
    rfl
  rw [valueOf_eq hsection, named_eq (named?_merge (nodup_section s hs) hdistinct hf),
    laidOver_of_value (dict?_default s hs f hf)]
  cases hv : named? inner f.1 with
  | none => exact .inl rfl
  | some v =>
    obtain ⟨e, he, hname, rfl⟩ := mem_of_named? hv
    rcases hinner with rfl | hinner
    · cases hv
    · rw [valueOf_eq hinner, named_eq hv, ← display_of_text hname]
      exact .inr ⟨rfl, hinside e he⟩

/-- A choice that passes the check is in its list when the default one is. -/
theorem isChosen_merge {lines : List (List Char)} (hupper : DistinctInside upper)
    (hfits : ∀ e ∈ upper, FitsEntry e)
    (hdefault : ∃ s ∈ sections, s.1 = name ∧
      ∃ f ∈ s.2, f.1 = key ∧ ∃ t ∈ admitted, f.2.text? = some t)
    (htext : schema.lookup (name ++ "." ++ key) = some .text)
    (hcheck : checkChoice lines upper name key admitted = none) :
    IsChosen (merge defaults upper) name key admitted := by
  obtain ⟨s, hs, rfl, f, hf, rfl, hdefault⟩ := hdefault
  rw [IsChosen]
  rcases valueOf_merge hupper hfits hs hf with h | ⟨h, hfit⟩
  · rwa [h]
  · rw [h]
    rcases checkChoice_eq_none_iff.mp hcheck with hnull | hchosen
    · have htyped := hfit _ htext
      rw [ValueType.admits, ← text?_plain, ← plain_unshare, hnull] at htyped
      cases htyped
    · exact hchosen

theorem settled_of_passes {text : List Char} (h : Holds text entries)
    (hpasses : Passes text entries) : Settled (merge defaults entries) := by
  obtain ⟨hfits, hformat, hlevel⟩ := validate_eq_none_iff.mp hpasses
  have hdistinct := h.distinctInside
  exact ⟨formed_merge hdistinct hfits,
    isChosen_merge hdistinct hfits (by decide +kernel) (by decide +kernel) hformat,
    isChosen_merge hdistinct hfits (by decide +kernel) (by decide +kernel) hlevel⟩

theorem settled_defaults : Settled defaults := by
  have hempty : DistinctInside [] := ⟨List.Pairwise.nil, fun _ h => absurd h List.not_mem_nil⟩
  have hfits : ∀ e ∈ ([] : Entries), FitsEntry e := fun _ h => absurd h List.not_mem_nil
  exact ⟨formed_merge hempty hfits, ⟨"text", by decide, rfl⟩, ⟨"INFO", by decide, rfl⟩⟩

theorem Loads.settled {path : Option Path} (h : Loads files path config) : Settled config := by
  cases h with
  | unasked => exact settled_defaults
  | absent => exact settled_defaults
  | merged _ _ hholds hpasses => exact settled_of_passes hholds hpasses

/-! ## The settings of a run -/

theorem appends_optionsOf (config : Entries) : (optionsOf config).Appends :=
  Options.appends_ofValue _

theorem outcome_setUp (files : Files) (a : Arguments) :
    (setUp files a).outcome.1 =
      (load files (pathGiven a.config)).outcome.1.mapError .load >>= fun base =>
        (optionsOf base).outcome.1.mapError .options >>= fun read =>
          .ok (overrideConfig a base, overrideOptions a read) := by
  rw [setUp, Logged.outcome_bind _ fun base =>
    ((appends_optionsOf base).mapError _).bind fun _ => Logged.appends_pure _,
    Logged.outcome_mapError]
  refine congrArg _ (funext fun base => ?_)
  rw [Logged.outcome_bind _ fun _ => Logged.appends_pure _, Logged.outcome_mapError]
  rfl

theorem setUp_eq_ok_iff {a : Arguments} {o : Options} :
    (setUp files a).outcome.1 = .ok (config, o) ↔
      ∃ base read, Loads files (pathGiven a.config) base ∧
        (optionsOf base).outcome.1 = .ok read ∧
        config = overrideConfig a base ∧ o = overrideOptions a read := by
  rw [outcome_setUp]
  constructor
  · intro h
    obtain ⟨base, hbase, h⟩ := ok_of_bind h
    obtain ⟨read, hread, h⟩ := ok_of_bind h
    cases h
    exact ⟨base, read, load_eq_ok_iff.mp (ok_of_mapError hbase), ok_of_mapError hread, rfl, rfl⟩
  · rintro ⟨base, read, hbase, hread, rfl, rfl⟩
    rw [load_eq_ok_iff.mpr hbase, mapError_ok, ok_bind, hread]
    rfl

theorem settled_of_setUp {a : Arguments} {o : Options} (ha : a.Chosen)
    (h : (setUp files a).outcome.1 = .ok (config, o)) : Settled config := by
  obtain ⟨base, read, hbase, -, rfl, -⟩ := setUp_eq_ok_iff.mp h
  exact hbase.settled.overrideConfig ha

end LineJoin.Settings
