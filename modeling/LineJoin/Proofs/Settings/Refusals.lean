import LineJoin.Proofs.Settings.Settled
import LineJoin.Run

/-!
# Settings that are not handled

Which settings files end a run without being reported: a path that leads to a directory or has a name
that is too long, and a scalar that does not fit its tag in a way that counts as no wrong value. Every
other fault of the settings is handled.
-/

namespace LineJoin.Settings

variable {files : Files} {path : Option Path} {p : Path} {data : Bytes} {text : List Char}

/-- What a run does not handle about the settings at a path. -/
inductive Escapes (files : Files) (p : Path) : Prop
  | directory (hfind : files.find? p = .ok .directory)
  | longName (hfind : files.find? p = .error .nameTooLong)
  | misfit {data : Bytes} {text : List Char} {m : Yaml.Misfit}
    (hfind : files.find? p = .ok (.file data)) (htext : textOf data = .ok text)
    (hyaml : Yaml.read text = .error (.misfit m)) (hm : m.isHandled = false)

/-- What a mapping is read from, once the text is there. -/
theorem loadMapping_eq (hfind : files.find? p = .ok (.file data)) (htext : textOf data = .ok text) :
    loadMapping files p = match Yaml.read text with
      | .error (.misfit m) => .error (.misfit m)
      | .error fault => .error (.faulty p.text fault)
      | .ok v =>
        match v.dict?, v.unshare with
        | some entries, _ => .ok entries
        | none, .null => .ok []
        | none, _ => .error (.notMapping v.typeName) := by
  simp only [loadMapping, Files.has_of_find? hfind, Files.read_file hfind, mappingOf, htext,
    mapError_ok, ok_bind]
  rfl

theorem invalid_of_complete {name : String} {lines : List (List Char)} {config : Entries}
    {e : LoadError} (h : (complete name lines config).outcome.1 = .error e) :
    ∃ finding, e = .invalid name finding := by
  cases config with
  | nil => cases h
  | cons first rest =>
    simp only [complete, List.isEmpty_cons, Bool.false_eq_true, if_false,
      Logged.outcome_lift_bind] at h
    split at h
    · cases h
      exact ⟨_, rfl⟩
    · cases h

theorem load_of_source?_error {e : LoadError} (h : source? files (some p) = .error e) :
    (load files (some p)).outcome.1 = .error e := by
  rw [load, Logged.outcome_ofExcept_bind, h, error_bind]

theorem load_of_text (hfind : files.find? p = .ok (.file data)) (htext : textOf data = .ok text) :
    (load files (some p)).outcome.1 =
      loadMapping files p >>= fun entries => (complete p.text (lines text) entries).outcome.1 := by
  rw [load, Logged.outcome_ofExcept_bind, source?_of_read (Files.read_file hfind _) htext, ok_bind]
  exact Logged.outcome_ofExcept_bind _ _

theorem load_of_undecoded {f : Encoding.Fault} (hfind : files.find? p = .ok (.file data))
    (htext : textOf data = .error f) :
    (load files (some p)).outcome.1 = .error (.encoding f) := by
  apply load_of_source?_error
  simp only [source?, Files.has_of_find? hfind, Files.read_file hfind, htext, mapError_ok,
    mapError_error, ok_bind, error_bind]
  rfl

theorem load_nowhere {e : FileProblem} (hfind : files.find? p = .error e)
    (he : e ≠ .nameTooLong) : (load files (some p)).outcome.1 = .ok defaults :=
  load_eq_ok_iff.mpr (.absent (Files.has_nowhere hfind he))

theorem load_directory (hfind : files.find? p = .ok .directory) :
    (load files (some p)).outcome.1 = .error (.file ⟨.isDirectory, p.text⟩) := by
  apply load_of_source?_error
  simp only [source?, Files.has_of_find? hfind, Files.read_directory hfind, mapError_ok, mapError_error,
    ok_bind]
  rfl

theorem load_longName (hfind : files.find? p = .error .nameTooLong) :
    (load files (some p)).outcome.1 = .error (.file ⟨.nameTooLong, p.text⟩) := by
  apply load_of_source?_error
  simp only [source?, Files.has_longName hfind, mapError_error]
  rfl

/-- A text that is read is refused in a way that is handled, if it is. -/
theorem isHandled_of_value {e : LoadError} {v : Value} (hfind : files.find? p = .ok (.file data))
    (htext : textOf data = .ok text) (hyaml : Yaml.read text = .ok v)
    (h : (load files (some p)).outcome.1 = .error e) : (SetupError.load e).isHandled = true := by
  rw [load_of_text hfind htext, loadMapping_eq hfind htext, hyaml] at h
  dsimp only at h
  split at h
  · obtain ⟨finding, rfl⟩ := invalid_of_complete h
    rfl
  · obtain ⟨finding, rfl⟩ := invalid_of_complete h
    rfl
  · cases h
    rfl

/-- A text that is refused in a way that is not handled has a scalar that does not fit. -/
theorem escapes_of_text {e : LoadError} (hfind : files.find? p = .ok (.file data))
    (htext : textOf data = .ok text) (h : (load files (some p)).outcome.1 = .error e)
    (he : (SetupError.load e).isHandled = false) : Escapes files p := by
  cases hyaml : Yaml.read text with
  | ok v =>
    rw [isHandled_of_value hfind htext hyaml h] at he
    cases he
  | error fault =>
    rw [load_of_text hfind htext, loadMapping_eq hfind htext, hyaml] at h
    cases fault with
    | misfit m =>
      cases h
      exact .misfit hfind htext hyaml he
    | _ =>
      cases h
      cases he

theorem escapes_of_load {e : LoadError} (h : (load files (some p)).outcome.1 = .error e)
    (he : (SetupError.load e).isHandled = false) : Escapes files p := by
  cases hfind : files.find? p with
  | error problem =>
    by_cases hproblem : problem = .nameTooLong
    · exact .longName (hproblem ▸ hfind)
    · rw [load_nowhere hfind hproblem] at h
      cases h
  | ok entry =>
    cases entry with
    | directory => exact .directory hfind
    | file data =>
      cases htext : textOf data with
      | error f =>
        rw [load_of_undecoded hfind htext] at h
        cases h
        cases he
      | ok text => exact escapes_of_text hfind htext h he

theorem Escapes.load (h : Escapes files p) :
    ∃ e, (load files (some p)).outcome.1 = .error e ∧
      (SetupError.load e).isHandled = false := by
  cases h with
  | directory hfind => exact ⟨_, load_directory hfind, rfl⟩
  | longName hfind => exact ⟨_, load_longName hfind, rfl⟩
  | misfit hfind htext hyaml hm =>
    refine ⟨.misfit _, ?_, hm⟩
    rw [load_of_text hfind htext, loadMapping_eq hfind htext, hyaml]
    rfl

/-- Loading settings fails in a way that is not handled exactly where the path escapes. -/
theorem load_escapes_iff :
    (∃ e, (load files path).outcome.1 = .error e ∧ (SetupError.load e).isHandled = false) ↔
      ∃ p, path = some p ∧ Escapes files p := by
  constructor
  · rintro ⟨e, h, he⟩
    cases path with
    | none => cases h
    | some p => exact ⟨p, rfl, escapes_of_load h he⟩
  · rintro ⟨p, rfl, h⟩
    exact h.load

theorem setUp_of_load_error {a : Arguments} {e : LoadError}
    (h : (load files (pathGiven a.config)).outcome.1 = .error e) :
    (setUp files a).outcome.1 = .error (.load e) := by
  rw [outcome_setUp, h]
  rfl

theorem setUp_escapes_iff {a : Arguments} :
    (∃ e, (setUp files a).outcome.1 = .error e ∧ e.isHandled = false) ↔
      ∃ p, pathGiven a.config = some p ∧ Escapes files p := by
  rw [← load_escapes_iff]
  constructor
  · rintro ⟨e, h, he⟩
    rw [outcome_setUp] at h
    rcases error_of_bind h with hload | ⟨base, -, hoptions⟩
    · obtain ⟨e', hload', rfl⟩ := error_of_mapError hload
      exact ⟨e', hload', he⟩
    · rcases error_of_bind hoptions with hoptions | ⟨o, -, hdone⟩
      · obtain ⟨e, -, rfl⟩ := error_of_mapError hoptions
        cases he
      · cases hdone
  · rintro ⟨e, hload, he⟩
    exact ⟨_, setUp_of_load_error hload, he⟩

end LineJoin.Settings
