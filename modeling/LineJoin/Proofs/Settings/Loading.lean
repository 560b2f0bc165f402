import LineJoin.Proofs.Files.Changes
import LineJoin.Settings.Load

/-!
# What loading gives

`Loads` says which settings come from which files, without regard to records: the default settings,
or these with the checked mapping of a file laid over them. Loading gives exactly these.
-/

namespace LineJoin.Settings

variable {files : Files} {path : Option Path} {p : Path} {data : Bytes} {text : List Char}
  {config entries : Entries}

/-- The mapping that a text holds. A text that holds nothing holds the empty one. -/
inductive Holds (text : List Char) : Entries → Prop
  | mapping {v : Value} (hread : Yaml.read text = .ok v) {entries : Entries}
      (hentries : v.dict? = some entries) : Holds text entries
  | nothing {v : Value} (hread : Yaml.read text = .ok v) (hnone : v.dict? = none)
      (hnull : v.unshare = .null) : Holds text []

theorem mappingOf_eq_ok_iff {name : String} :
    mappingOf name data = .ok entries ↔ ∃ text, textOf data = .ok text ∧ Holds text entries := by
  constructor
  · intro h
    obtain ⟨text, htext, h⟩ := ok_of_bind h
    refine ⟨text, ok_of_mapError htext, ?_⟩
    split at h
    · cases h
    · cases h
    · rename_i v hread
      split at h
      · rename_i hentries
        cases h
        exact .mapping hread hentries
      · rename_i hnone hnull
        cases h
        exact .nothing hread hnone hnull
      · cases h
  · rintro ⟨text, htext, hentries⟩
    cases hentries with
    | mapping hread hentries =>
      simp only [mappingOf, htext, mapError_ok, ok_bind, hread, hentries]
      rfl
    | nothing hread hnone hnull =>
      simp only [mappingOf, htext, mapError_ok, ok_bind, hread, hnone, hnull]
      rfl

/-! ## Files -/

theorem loadMapping_of_read (hread : files.read p p.text = .ok data)
    (htext : textOf data = .ok text) (hentries : Holds text entries) :
    loadMapping files p = .ok entries := by
  unfold loadMapping
  rw [Files.has_of_read hread, hread]
  exact mappingOf_eq_ok_iff.mpr ⟨text, htext, hentries⟩

theorem read_of_loadMapping (h : loadMapping files p = .ok entries) :
    ∃ data text, files.read p p.text = .ok data ∧ textOf data = .ok text ∧ Holds text entries := by
  obtain ⟨found, -, h⟩ := ok_of_bind h
  cases found with
  | false => cases h
  | true =>
    obtain ⟨data, hread, h⟩ := ok_of_bind h
    obtain ⟨text, htext, hentries⟩ := mappingOf_eq_ok_iff.mp h
    exact ⟨data, text, ok_of_mapError hread, htext, hentries⟩

theorem source?_of_read (hread : files.read p p.text = .ok data) (htext : textOf data = .ok text) :
    source? files (some p) = .ok (some text) := by
  simp only [source?, Files.has_of_read hread, hread, htext, mapError_ok, ok_bind]
  rfl

theorem source?_of_absent (h : files.has p = .ok false) : source? files (some p) = .ok none := by
  simp only [source?, h, mapError_ok, ok_bind]
  rfl

theorem read_of_source? (h : source? files (some p) = .ok (some text)) :
    ∃ data, files.read p p.text = .ok data ∧ textOf data = .ok text := by
  obtain ⟨found, -, h⟩ := ok_of_bind h
  cases found with
  | false => cases h
  | true =>
    obtain ⟨data, hread, h⟩ := ok_of_bind h
    obtain ⟨text', htext, h⟩ := ok_of_bind h
    cases h
    exact ⟨data, ok_of_mapError hread, ok_of_mapError htext⟩

theorem absent_of_source? (h : source? files (some p) = .ok none) : files.has p = .ok false := by
  obtain ⟨found, hfound, h⟩ := ok_of_bind h
  cases found with
  | false => exact ok_of_mapError hfound
  | true =>
    obtain ⟨data, -, h⟩ := ok_of_bind h
    obtain ⟨text, -, h⟩ := ok_of_bind h
    cases h

/-! ## Settings -/

/-- Nothing is wrong with a mapping that a text holds. -/
def Passes (text : List Char) (entries : Entries) : Prop :=
  ((validate (lines text) entries).run []).1 = none

/-- The settings that files give. -/
inductive Loads (files : Files) : Option Path → Entries → Prop
  | unasked : Loads files none defaults
  | absent {p : Path} (hnone : files.has p = .ok false) : Loads files (some p) defaults
  | merged {p : Path} {data : Bytes} {text : List Char} (hread : files.read p p.text = .ok data)
      (htext : textOf data = .ok text) {entries : Entries} (hentries : Holds text entries)
      (hpasses : Passes text entries) : Loads files (some p) (merge defaults entries)

/-- Settings are complete as they come from a mapping that passes. The empty one does. -/
theorem complete_eq_ok_iff {name : String} :
    (complete name (lines text) entries).outcome.1 = .ok config ↔
      Passes text entries ∧ config = merge defaults entries := by
  cases entries with
  | nil => exact ⟨fun h => ⟨rfl, (Except.ok.inj h).symm⟩, fun h => congrArg Except.ok h.2.symm⟩
  | cons e rest =>
    simp only [complete, Passes, List.isEmpty_cons, Bool.false_eq_true, if_false,
      Logged.outcome_lift_bind]
    cases ((validate (lines text) (e :: rest)).run []).1 with
    | some finding => exact ⟨fun h => (by cases h), fun h => (by cases h.1)⟩
    | none => exact ⟨fun h => ⟨rfl, (Except.ok.inj h).symm⟩, fun h => congrArg Except.ok h.2.symm⟩

theorem load_eq_ok_iff : (load files path).outcome.1 = .ok config ↔ Loads files path config := by
  unfold load
  cases path with
  | none => exact ⟨fun h => by cases h; exact .unasked, fun h => by cases h; rfl⟩
  | some p =>
    rw [Logged.outcome_ofExcept_bind]
    constructor
    · intro h
      obtain ⟨source, hsource, h⟩ := ok_of_bind h
      cases source with
      | none =>
        cases h
        exact .absent (absent_of_source? hsource)
      | some text =>
        rw [Logged.outcome_ofExcept_bind] at h
        obtain ⟨entries, hentries, h⟩ := ok_of_bind h
        obtain ⟨hpasses, rfl⟩ := complete_eq_ok_iff.mp h
        obtain ⟨data, hread, htext⟩ := read_of_source? hsource
        obtain ⟨data', text', hread', htext', hholds⟩ := read_of_loadMapping hentries
        cases hread.symm.trans hread'
        cases htext.symm.trans htext'
        exact .merged hread htext hholds hpasses
    · intro h
      cases h with
      | absent hnone =>
        rw [source?_of_absent hnone]
        rfl
      | merged hread htext hholds hpasses =>
        rw [source?_of_read hread htext, ok_bind, Logged.outcome_ofExcept_bind,
          loadMapping_of_read hread htext hholds, ok_bind]
        exact complete_eq_ok_iff.mpr ⟨hpasses, rfl⟩

end LineJoin.Settings
