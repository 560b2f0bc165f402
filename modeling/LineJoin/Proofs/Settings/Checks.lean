import LineJoin.Proofs.Settings.Merging
import LineJoin.Settings.Validate

/-!
# What the check of settings finds

The check finds nothing wrong with a configuration exactly if every value at a path of the schema has
the type that the schema asks for, and the values that are chosen from a list are in it.
-/

namespace LineJoin.Settings

open Entries Value

/-- A value has the type that the schema asks for at a path, if it asks for one. -/
def Fits (path : String) (v : Value) : Prop := ∀ t, schema.lookup path = some t → t.admits v = true

theorem fits_iff {path : String} {v : Value} :
    Fits path v ↔ (schema.lookup path).all (·.admits v) = true := by
  unfold Fits
  cases schema.lookup path with
  | none => exact ⟨fun _ => rfl, fun _ _ h => by cases h⟩
  | some t => exact ⟨fun h => h t rfl, fun h t' ht' => Option.some.inj ht' ▸ h⟩

instance (path : String) (v : Value) : Decidable (Fits path v) := decidable_of_iff _ fits_iff.symm

/-- An entry of a configuration fits, and if it is a known section so do the entries inside it. -/
structure FitsEntry (e : Value × Value) : Prop where
  value : Fits e.1.display e.2
  inside : schema.lookup e.1.display = some .section → ∀ entries, e.2.dict? = some entries →
    ∀ f ∈ entries, Fits (e.1.display ++ "." ++ f.1.display) f.2

section Items

variable {lines : List (List Char)} {config : Entries} {records : List Record}

theorem checkTypes_eq_none_iff (lines : List (List Char)) (ps : List (String × Value))
    (records : List Record) :
    ((checkTypes lines ps).run records).1 = none ↔ ∀ p ∈ ps, Fits p.1 p.2 := by
  induction ps generalizing records with
  | nil => exact ⟨fun _ _ h => absurd h List.not_mem_nil, fun _ => rfl⟩
  | cons p rest ih =>
    obtain ⟨path, v⟩ := p
    rw [checkTypes, List.forall_mem_cons]
    split
    · rename_i hpath
      have hfits : Fits path v := fun t ht => by
        rw [hpath] at ht
        cases ht
      rw [and_iff_right hfits]
      exact ih _
    · rename_i t hpath
      have hfits : Fits path v ↔ t.admits v = true :=
        ⟨fun h => h t hpath, fun h t' ht' => by rwa [← Option.some.inj (hpath.symm.trans ht')]⟩
      rw [hfits]
      split
      · rename_i hadmits
        rw [and_iff_right hadmits]
        exact ih _
      · rename_i hadmits
        exact ⟨fun h => (by cases h), fun h => absurd h.1 hadmits⟩

theorem fits_items_iff (config : Entries) :
    (∀ p ∈ items config, Fits p.1 p.2) ↔ ∀ e ∈ config, FitsEntry e := by
  simp only [items, List.forall_mem_flatMap, List.forall_mem_cons]
  constructor
  · intro h e he
    refine ⟨(h e he).1, fun hsection entries hentries f hf => ?_⟩
    have hinside := (h e he).2
    rw [hsection, hentries] at hinside
    exact hinside _ (List.mem_map_of_mem hf)
  · intro h e he
    refine ⟨(h e he).value, ?_⟩
    split
    · rename_i entries hentries hsection
      intro p hp
      obtain ⟨f, hf, rfl⟩ := List.mem_map.mp hp
      exact (h e he).inside hsection entries hentries f hf
    · exact fun _ hp => absurd hp List.not_mem_nil

theorem validate_eq_none_iff :
    ((validate lines config).run records).1 = none ↔ (∀ e ∈ config, FitsEntry e) ∧
      checkChoice lines config "input" "tree_format" treeFormats = none ∧
      checkChoice lines config "logging" "level" logLevels = none := by
  rw [← fits_items_iff, ← checkTypes_eq_none_iff lines _ records, validate, StateT.run_bind]
  obtain ⟨_ | f, more⟩ := (checkTypes lines (items config)).run records
  · cases hformat : checkChoice lines config "input" "tree_format" treeFormats with
    | some f => exact ⟨fun h => (by cases h), fun h => (by cases h.2.1)⟩
    | none => exact ⟨fun h => ⟨rfl, rfl, h⟩, fun h => h.2.2⟩
  · exact ⟨fun h => (by cases h), fun h => (by cases h.1)⟩

end Items

/-- What is chosen from a list is missing, or a text of the list. -/
theorem checkChoice_eq_none_iff {lines : List (List Char)} {config : Entries} {name key : String}
    {admitted : List String} :
    checkChoice lines config name key admitted = none ↔
      (valueOf config name key).unshare = .null ∨
        ∃ s ∈ admitted, (valueOf config name key).text? = some s := by
  obtain ⟨u, hu, hplain, hmark⟩ := (valueOf config name key).exists_unmarked
  rw [checkChoice, ← text?_plain (valueOf config name key), hplain, text?_plain, hu]
  cases u with
  | null => exact ⟨fun _ => .inl rfl, fun _ => rfl⟩
  | shared id v => exact absurd rfl (hmark id v)
  | str s =>
    by_cases hs : s ∈ admitted
    · simp [text?, hs]
    · simp [text?, hs]
  | _ => simp [text?]

end LineJoin.Settings
