import LineJoin.Proofs.Settings.Checks
import LineJoin.Settings.Overrides

/-!
# The layout of settings

Settings that are laid over the default ones keep the sections and keys of these in their places, and
every value in them has the type that the schema asks for. `Formed` says so, and putting a value into
a section keeps it.
-/

namespace LineJoin.Settings

open Entries Value

variable {config upper entries : Entries} {s : String × List (String × Value)}
  {f : String × Value} {v : Value}

/-! ## The default settings -/

/-- The fields of a mapping whose keys are texts. -/
def namedFields (entries : Entries) : List (String × Value) :=
  entries.filterMap fun e => e.1.text?.map (·, e.2)

/-- The sections of the settings, with the default values of their keys. -/
def sections : List (String × List (String × Value)) :=
  (namedFields defaults).map fun f => (f.1, namedFields (f.2.dict?.getD []))

theorem defaults_eq :
    defaults = ofFields (sections.map fun s => (s.1, .dict (ofFields s.2))) := rfl

theorem nodup_sections : (sections.map (·.1)).Nodup := by decide

theorem nodup_section : ∀ s ∈ sections, (s.2.map (·.1)).Nodup := by decide

theorem schema_section : ∀ s ∈ sections, schema.lookup s.1 = some .section := by decide +kernel

/-- The keys of the default settings hold no sections. -/
theorem dict?_default : ∀ s ∈ sections, ∀ f ∈ s.2, f.2.dict? = none := by
  have h : (sections.all fun s => s.2.all fun f => f.2.dict?.isNone) = true := rfl
  simpa only [List.all_eq_true, Option.isNone_iff_eq_none] using h

/-- Every default value passes the check of its own key. -/
theorem fits_default : ∀ s ∈ sections, ∀ f ∈ s.2, Fits (s.1 ++ "." ++ f.1) f.2 := by
  decide +kernel

theorem laidOver_of_value (h : f.2.dict? = none) (upper : Entries) :
    laidOver upper f = (f.1, (named? upper f.1).getD f.2) := by
  rw [laidOver]
  cases named? upper f.1 with
  | none => rfl
  | some v => exact congrArg (f.1, ·) (overlay_of_old (show (some f.2).bind dict? = none from h) v)

section Section

variable {inner : Entries}

/-- A section over the default one has the keys of that in their places. -/
theorem begins_section (hs : s ∈ sections) (inner : Entries) :
    Begins (s.2.map (·.1)) (merge (ofFields s.2) inner) :=
  begins_merge (begins_ofFields (nodup_section s hs)) inner

theorem fits_section (hs : s ∈ sections) (hinner : Distinct inner)
    (hfits : ∀ f ∈ inner, Fits (s.1 ++ "." ++ f.1.display) f.2) :
    ∀ f ∈ merge (ofFields s.2) inner, Fits (s.1 ++ "." ++ f.1.display) f.2 := by
  intro e he
  rcases mem_merge (nodup_section s hs) hinner he with he | ⟨f, hf, rfl⟩
  · exact hfits e he
  · rw [laidOver_of_value (dict?_default s hs f hf), display]
    cases hv : named? inner f.1 with
    | none => exact fits_default s hs f hf
    | some v =>
      obtain ⟨e, he, hname, rfl⟩ := mem_of_named? hv
      rw [← display_of_text hname]
      exact hfits e he

/-- No key comes twice in a configuration nor in its sections. -/
structure DistinctInside (config : Entries) : Prop where
  distinct : Distinct config
  inside : ∀ e ∈ config, ∀ entries, e.2.dict? = some entries → Distinct entries

/-- What comes out of a section that is laid over the default one. -/
theorem laidOver_section (hupper : DistinctInside upper) (hfits : ∀ e ∈ upper, FitsEntry e)
    (hs : s ∈ sections) :
    ∃ inner, laidOver upper (s.1, .dict (ofFields s.2)) = (s.1, .dict (merge (ofFields s.2) inner)) ∧
      Distinct inner ∧ (∀ f ∈ inner, Fits (s.1 ++ "." ++ f.1.display) f.2) ∧
      (inner = [] ∨ (named upper s.1).dict? = some inner) := by
  cases hv : named? upper s.1 with
  | none =>
    refine ⟨[], ?_, List.Pairwise.nil, fun _ h => absurd h List.not_mem_nil, .inl rfl⟩
    rw [laidOver, hv]
    rfl
  | some v =>
    obtain ⟨e, he, hname, rfl⟩ := mem_of_named? hv
    have hpath : e.1.display = s.1 := display_of_text hname
    have hsection : schema.lookup e.1.display = some .section := hpath ▸ schema_section s hs
    obtain ⟨inner, hinner⟩ := Option.isSome_iff_exists.mp ((hfits e he).value _ hsection)
    refine ⟨inner, ?_, hupper.inside e he inner hinner, ?_, .inr ?_⟩
    · rw [laidOver, hv]
      exact congrArg (s.1, ·) (overlay_dict rfl hinner)
    · rw [← hpath]
      exact (hfits e he).inside hsection inner hinner
    · rwa [named_eq hv]

end Section

/-! ## Formed settings -/

/-- Settings with all sections and keys in their places, and nothing of a wrong type. -/
structure Formed (config : Entries) : Prop where
  begins : Begins (sections.map (·.1)) config
  sections : ∀ s ∈ sections, ∃ entries, (named config s.1).dict? = some entries ∧
    Begins (s.2.map (·.1)) entries
  fits : ∀ e ∈ config, FitsEntry e

theorem fitsEntry_section (hs : s ∈ sections) {key : Value} (hkey : key.text? = some s.1)
    (hv : v.dict? = some entries) (hfits : ∀ f ∈ entries, Fits (s.1 ++ "." ++ f.1.display) f.2) :
    FitsEntry (key, v) where
  value := by
    rw [display_of_text hkey]
    intro t ht
    cases (schema_section s hs).symm.trans ht
    exact Option.isSome_iff_exists.mpr ⟨entries, hv⟩
  inside := by
    intro _ others hothers
    cases hv.symm.trans hothers
    rwa [display_of_text hkey]

theorem nodup_defaults :
    ((sections.map fun s => (s.1, Value.dict (ofFields s.2))).map (·.1)).Nodup := by
  rw [List.map_map]
  exact nodup_sections

theorem named_merge (hupper : Distinct upper) (hs : s ∈ sections) :
    named (merge defaults upper) s.1 = (laidOver upper (s.1, .dict (ofFields s.2))).2 :=
  named_eq (named?_merge nodup_defaults hupper (List.mem_map_of_mem hs))

theorem formed_merge (hupper : DistinctInside upper) (hfits : ∀ e ∈ upper, FitsEntry e) :
    Formed (merge defaults upper) where
  begins := by
    have h := begins_merge (begins_ofFields nodup_defaults) upper
    rwa [List.map_map] at h
  sections := by
    intro s hs
    obtain ⟨inner, hlaid, -⟩ := laidOver_section hupper hfits hs
    rw [named_merge hupper.distinct hs, hlaid]
    exact ⟨_, rfl, begins_section hs inner⟩
  fits := by
    intro e he
    rcases mem_merge nodup_defaults hupper.distinct he with he | ⟨f, hf, rfl⟩
    · exact hfits e he
    · obtain ⟨s, hs, rfl⟩ := List.mem_map.mp hf
      obtain ⟨inner, hlaid, hdistinct, hinner, -⟩ := laidOver_section hupper hfits hs
      rw [hlaid]
      exact fitsEntry_section hs rfl rfl (fits_section hs hdistinct hinner)

/-- Another mapping may come in the place of a section, if it has the same keys and fits. -/
theorem Formed.putNamed (h : Formed config) (hs : s ∈ Settings.sections)
    (hv : v.dict? = some entries) (hbegins : Begins (s.2.map (·.1)) entries)
    (hfits : ∀ f ∈ entries, Fits (s.1 ++ "." ++ f.1.display) f.2) :
    Formed (config.putNamed s.1 v) where
  begins := h.begins.put _ _
  sections := by
    intro t ht
    rw [named_putNamed]
    by_cases hst : s.1 = t.1
    · cases List.inj_on_of_nodup_map nodup_sections hs ht hst
      rw [if_pos rfl]
      exact ⟨entries, hv, hbegins⟩
    · rw [if_neg hst]
      exact h.sections t ht
  fits := by
    intro e he
    rcases mem_put he with he | ⟨hkey, rfl⟩
    · exact h.fits e he
    · exact fitsEntry_section hs hkey hv hfits

/-- What is in a section fits. -/
theorem Formed.inside (h : Formed config) (hs : s ∈ Settings.sections)
    (hentries : (named config s.1).dict? = some entries) :
    ∀ f ∈ entries, Fits (s.1 ++ "." ++ f.1.display) f.2 := by
  obtain ⟨v, hv⟩ := h.begins.named? (List.mem_map_of_mem hs)
  obtain ⟨e, he, hname, rfl⟩ := mem_of_named? hv
  rw [named_eq hv] at hentries
  have hpath : e.1.display = s.1 := display_of_text hname
  rw [← hpath]
  exact (h.fits e he).inside (hpath ▸ schema_section s hs) entries hentries

/-- A value that fits may be put under a key of a section. -/
theorem Formed.putIn (h : Formed config) (hs : s ∈ Settings.sections) {key : String}
    (hv : Fits (s.1 ++ "." ++ key) v) : Formed (putIn config s.1 key v) := by
  obtain ⟨entries, hentries, hbegins⟩ := h.sections s hs
  rw [Settings.putIn, hentries]
  refine h.putNamed hs rfl (hbegins.put _ _) fun f hf => ?_
  rcases mem_put hf with hf | ⟨hkey, rfl⟩
  · exact h.inside hs hentries f hf
  · rw [display_of_text hkey]
    exact hv

end LineJoin.Settings
