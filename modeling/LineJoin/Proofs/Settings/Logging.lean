import LineJoin.Log.Logger
import LineJoin.Proofs.Settings.Settled

/-!
# The logger that settings give

Settled settings give a logger unless the template for its lines has no field, or the path of the log
file has a null character. The logger shows the records from the chosen level on, and has a file if
the settings ask for one.
-/

namespace LineJoin

open Entries Value

namespace Settings

/-- The file that settings ask the log to be kept in. -/
def logFile? (config : Entries) : Option String :=
  if (valueOf config "logging" "file_enabled").truthy then
    (valueOf config "logging" "file_path").text?
  else none

/-- The template for log lines is a text without any field, but not the empty text. -/
def LacksField (config : Entries) : Prop :=
  ∃ s, (valueOf config "logging" "format").text? = some s ∧ s ≠ "" ∧
    Template.hasField s.toList = false

/-- The log is to be kept in a file that cannot be: its resolved path has a null character. -/
def NullInLogPath (config : Entries) : Prop :=
  ∃ file, logFile? config = some file ∧ (Path.ofText file).resolved.hasNull = true

end Settings

namespace Logger

open Settings (Settled LacksField NullInLogPath logFile? valueOf)

variable {config : Entries}

theorem lookUp_of_named? {v w : Value} {key : String} {entries : Entries}
    (hv : v.dict? = some entries) (hw : named? entries key = some w) : lookUp v key = .ok w := by
  rw [lookUp, mapping?_of_dict? hv]
  dsimp only
  rw [hw]

/-- The section on logging and what is in it. -/
theorem lookUp_logging (h : Settled config) :
    lookUp (.dict config) "logging" = .ok (named config "logging") ∧
      ∀ key ∈ ["level", "format", "file_enabled", "file_path"],
        lookUp (named config "logging") key = .ok (valueOf config "logging" key) ∧
          Settings.Fits ("logging." ++ key) (valueOf config "logging" key) := by
  obtain ⟨s, hs, hname, hkeys⟩ : ∃ s ∈ Settings.sections, s.1 = "logging" ∧
      s.2.map (·.1) = ["level", "format", "file_enabled", "file_path"] := by decide
  rw [← hkeys, ← hname]
  obtain ⟨v, hv⟩ := h.begins.named? (List.mem_map_of_mem hs)
  rw [named_eq hv]
  refine ⟨lookUp_of_named? rfl hv, fun key hkey => ?_⟩
  obtain ⟨f, hf, rfl⟩ := List.mem_map.mp hkey
  obtain ⟨entries, hentries, hvalue, hfits⟩ := h.value hs hf
  rw [named_eq hv] at hentries
  exact ⟨lookUp_of_named? hentries hvalue, hname ▸ hfits⟩

/-- A value that has to be a text is one. -/
theorem text_of_fits {path : String} {v : Value} (h : Settings.Fits path v)
    (hpath : Settings.schema.lookup path = some .text) : ∃ s, v.text? = some s :=
  Option.isSome_iff_exists.mp (h _ hpath)

/-- The logger for a level and a template, with its file if it has one. -/
def withFile (level : String) (template : Template) : Option String → Except LoggerError Logger
  | none => .ok ⟨thresholdOf level, template, none⟩
  | some file =>
    if (Path.ofText file).resolved.hasNull then .error .nullInPath
    else .ok ⟨thresholdOf level, template, some file⟩

theorem ofSettings_eq (h : Settled config) :
    ∃ level ∈ Settings.logLevels, ∃ format,
      (valueOf config "logging" "format").text? = some format ∧
      ofSettings config = match Template.ofText? format with
        | some template => withFile level template (logFile? config)
        | none => .error (.noField format) := by
  obtain ⟨hsection, hkeys⟩ := lookUp_logging h
  obtain ⟨level, hlevel, hleveltext⟩ := h.level
  obtain ⟨hformat, hfits⟩ := hkeys "format" (by decide)
  obtain ⟨hpath, hpathfits⟩ := hkeys "file_path" (by decide)
  obtain ⟨format, hformattext⟩ := text_of_fits hfits (by decide +kernel)
  obtain ⟨file, hfile⟩ := text_of_fits hpathfits (by decide +kernel)
  refine ⟨level, hlevel, format, hformattext, ?_⟩
  simp only [ofSettings, hsection, ok_bind, (hkeys "level" (by decide)).1, hleveltext, hformat,
    (hkeys "file_enabled" (by decide)).1, hpath, templateOf, hformattext, hfile, logFile?]
  cases Template.ofText? format with
  | none => rfl
  | some template =>
    dsimp only
    cases (valueOf config "logging" "file_enabled").truthy with
    | false => rfl
    | true => rfl

theorem ofText?_eq_none_iff {s : String} :
    Template.ofText? s = none ↔ s ≠ "" ∧ Template.hasField s.toList = false := by
  have hempty : s.toList.isEmpty = true ↔ s = "" := by
    rw [List.isEmpty_iff, String.toList_eq_nil_iff]
  rw [Template.ofText?]
  by_cases hs : s = ""
  · rw [if_pos (hempty.mpr hs)]
    exact ⟨nofun, fun h => absurd hs h.1⟩
  · rw [if_neg fun h => hs (hempty.mp h)]
    cases Template.hasField s.toList with
    | true => exact ⟨nofun, fun h => nomatch h.2⟩
    | false => exact ⟨fun _ => ⟨hs, rfl⟩, fun _ => rfl⟩

theorem withFile_error_iff {level : String} {template : Template} {file? : Option String} :
    (∃ e, withFile level template file? = .error e) ↔
      ∃ file, file? = some file ∧ (Path.ofText file).resolved.hasNull = true := by
  cases file? with
  | none => exact ⟨fun ⟨_, h⟩ => (nomatch h), fun ⟨_, h, _⟩ => (nomatch h)⟩
  | some file =>
    rw [withFile]
    by_cases hnull : (Path.ofText file).resolved.hasNull = true
    · rw [if_pos hnull]
      exact ⟨fun _ => ⟨file, rfl, hnull⟩, fun _ => ⟨_, rfl⟩⟩
    · rw [if_neg hnull]
      refine ⟨fun ⟨_, h⟩ => (nomatch h), fun ⟨_, hfile, hnull'⟩ => ?_⟩
      cases hfile
      exact absurd hnull' hnull

/-- Logging can be set up unless the template lacks a field or no file can have the path. -/
theorem ofSettings_error_iff (h : Settled config) :
    (∃ e, ofSettings config = .error e) ↔ LacksField config ∨ NullInLogPath config := by
  obtain ⟨level, -, format, hformat, heq⟩ := ofSettings_eq h
  have hlacks : LacksField config ↔ Template.ofText? format = none := by
    rw [ofText?_eq_none_iff]
    refine ⟨fun ⟨s, hs, hfield⟩ => ?_, fun hfield => ⟨format, hformat, hfield⟩⟩
    rwa [← Option.some.inj (hs.symm.trans hformat)]
  rw [heq, hlacks]
  cases Template.ofText? format with
  | none => exact ⟨fun _ => .inl rfl, fun _ => ⟨_, rfl⟩⟩
  | some template => exact withFile_error_iff.trans ⟨.inr, fun h => h.resolve_left nofun⟩

theorem file_of_ofSettings {l : Logger} (h : Settled config) (hl : ofSettings config = .ok l) :
    l.file = logFile? config := by
  obtain ⟨level, -, format, -, heq⟩ := ofSettings_eq h
  rw [heq] at hl
  split at hl
  · generalize logFile? config = file? at hl
    cases file? with
    | none =>
      cases hl
      rfl
    | some file =>
      rw [withFile] at hl
      split at hl
      · cases hl
      · cases hl
        rfl
  · cases hl

end Logger

end LineJoin
