import LineJoin.Proofs.Files.Frames
import LineJoin.Proofs.Run.Exits

/-!
# What a run changes

Until its result is there a run prints nothing and changes no files but the log and the file that the
settings are saved to. So a run that fails has published nothing: its output is empty, and there is no
file in the place of the output that was not there before.
-/

namespace LineJoin

variable {written made : Location → Prop} {w w₁ w' : Workspace} {l : Logger}

namespace Workspace

/-- A workspace in which nothing has been read or printed, and whose files are kept apart from what
may be written and from directories that may be made. -/
structure Kept (written made : Location → Prop) (w w' : Workspace) : Prop where
  input : w'.input = w.input
  stdout : w'.stdout = w.stdout
  files : w.files.Kept written made w'.files

theorem Kept.refl (w : Workspace) : Kept written made w w := ⟨rfl, rfl, .refl _⟩

theorem Kept.trans (h : Kept written made w w₁) (h' : Kept written made w₁ w') :
    Kept written made w w' :=
  ⟨h'.input.trans h.input, h'.stdout.trans h.stdout, h.files.trans h'.files⟩

theorem kept_files {files : Files} (h : w.files.Kept written made files) :
    Kept written made w { w with files } := ⟨rfl, rfl, h⟩

theorem kept_tell (tone : Tone) (message : List Char) (w : Workspace) :
    Kept written made w (w.tell tone message) := ⟨rfl, rfl, .refl _⟩

theorem kept_printError (text : String) (w : Workspace) :
    Kept written made w (w.printError text) := ⟨rfl, rfl, .refl _⟩

theorem kept_showEarly (records : List Record) (w : Workspace) :
    Kept written made w (w.showEarly records) := by
  induction records generalizing w with
  | nil => exact .refl w
  | cons r rest ih =>
    have hfirst : Kept written made w (w.emitEarly r) := by
      unfold emitEarly
      split
      · exact kept_printError _ w
      · exact .refl w
    exact hfirst.trans (ih _)

/-! ## The log -/

/-- The log of a logger may be written. -/
def Admits (written : Location → Prop) (l : Logger) : Prop :=
  ∀ file, l.file = some file → written (logPath file).place

theorem kept_addLine {p : Path} (hp : written p.place) (line : String) (w : Workspace) :
    Kept written made w (w.addLine p line) := by
  unfold addLine
  split
  · rename_i h
    exact kept_files ((Files.kept_change h).mono (fun _ hm => hm ▸ hp) fun _ h => h)
  · exact .refl w

theorem kept_emit (hl : Admits written l) (r : Record) (w : Workspace) :
    Kept written made w (w.emit l r) := by
  unfold emit
  split
  · exact .refl w
  · split
    · exact .refl w
    · dsimp only
      split
      · rename_i hfile
        exact (kept_addLine (hl _ hfile) _ w).trans (kept_printError _ _)
      · exact kept_printError _ w

theorem kept_showAll (hl : Admits written l) (records : List Record) (w : Workspace) :
    Kept written made w (w.showAll l records) := by
  induction records generalizing w with
  | nil => exact .refl w
  | cons r rest ih => exact (kept_emit hl r w).trans (ih _)

theorem kept_reportAbout (hl : Admits written l) (lead subject message : String) (w : Workspace) :
    Kept written made w (w.reportAbout l lead subject message) :=
  (kept_emit hl _ w).trans (kept_tell _ _ _)

theorem kept_openLog {l₀ : Logger} (hl : Admits written l₀) (h : w.openLog l₀ = (l, w')) :
    Admits written l ∧ Kept written made w w' := by
  unfold openLog at h
  split at h
  · cases h
    exact ⟨hl, .refl w⟩
  · rename_i hfile
    split at h
    · rename_i hchange
      cases h
      exact ⟨hl, kept_files
        ((Files.kept_change hchange).mono (fun _ hm => hm ▸ hl _ hfile) fun _ h => h)⟩
    · cases h
      have hnone : Admits written { l₀ with file := none } := fun _ h => (nomatch h)
      exact ⟨hnone, kept_emit hnone _ w⟩

end Workspace

/-! ## Saving -/

theorem Settings.kept_save {p : Path} (hp : written p.place) (files : Files) (v : Value) :
    files.Kept written p.Above (save files p true v).1 := by
  have hparents : files.Kept written p.Above (files.ensureParents p).1 :=
    Files.kept_ensureDirectories _ files p.parent
  unfold save
  split
  · exact .refl files
  · unfold saveText
    dsimp only [if_true]
    split
    · exact hparents
    · split
      · exact hparents
      · rename_i hwrite
        exact hparents.trans
          ((Files.kept_change hwrite).mono (fun _ hm => hm ▸ hp) fun _ h => h)

namespace Run

open Settings (setUp logFile?)

variable {libs : Libraries} {a : Arguments} {config : Entries} {o : Options}
  {source : Source}

/-! ## Where a run may change something -/

/-- The place of the log, if the settings ask for one. -/
def LogPlace (a : Arguments) (w : Workspace) (m : Location) : Prop :=
  ∃ config o, (setUp w.files a).outcome.1 = .ok (config, o) ∧
    ∃ file, logFile? config = some file ∧ m = (Workspace.logPath file).place

/-- The place that the settings are saved to, if that is asked for. -/
def SavePlace (a : Arguments) (m : Location) : Prop :=
  Arguments.given a.writeConfig = true ∧ m = (Path.ofText (a.writeConfig.getD "")).place

/-- The places of the directories above the one that the settings are saved to. -/
def AboveSave (a : Arguments) (m : Location) : Prop :=
  Arguments.given a.writeConfig = true ∧ (Path.ofText (a.writeConfig.getD "")).Above m

/-- The place of the output, if there is to be one. -/
def OutputPlace (a : Arguments) (m : Location) : Prop :=
  Arguments.given a.output = true ∧ m = (Path.ofText (a.output.getD "")).place

/-- The places of the log and of the saved settings. -/
def OwnPlace (a : Arguments) (w : Workspace) (m : Location) : Prop := LogPlace a w m ∨ SavePlace a m

/-! ## Stages -/

/-- What a run has done before anything is published. -/
structure Unpublished (a : Arguments) (w : Workspace) (l : Logger) (w₁ : Workspace) : Prop where
  admits : Workspace.Admits (OwnPlace a w) l
  kept : Workspace.Kept (OwnPlace a w) (AboveSave a) w w₁

theorem Unpublished.onward {w₂ : Workspace} (h : Unpublished a w l w₁)
    (hkept : Workspace.Kept (OwnPlace a w) (AboveSave a) w₁ w₂) : Unpublished a w l w₂ :=
  ⟨h.admits, h.kept.trans hkept⟩

theorem Unpublished.showAll (h : Unpublished a w l w₁) (records : List Record) :
    Unpublished a w l (w₁.showAll l records) :=
  h.onward (Workspace.kept_showAll h.admits _ _)

theorem Unpublished.reportAbout (h : Unpublished a w l w₁) (lead subject message : String) :
    Workspace.Kept (OwnPlace a w) (AboveSave a) w (w₁.reportAbout l lead subject message) :=
  h.kept.trans (Workspace.kept_reportAbout h.admits _ _ _ _)

theorem Unpublished.report (h : Unpublished a w l w₁) (r : Record) (message : List Char) :
    Workspace.Kept (OwnPlace a w) (AboveSave a) w ((w₁.emit l r).tell .failure message) :=
  (h.kept.trans (Workspace.kept_emit h.admits _ _)).trans (Workspace.kept_tell _ _ _)

theorem Unpublished.reportInput (h : Unpublished a w l w₁) (message : String) :
    Workspace.Kept (OwnPlace a w) (AboveSave a) w (w₁.reportInput l message) :=
  h.report _ _

theorem Unpublished.reportReading (h : Unpublished a w l w₁) (filepath : String) (e : ReadError) :
    Workspace.Kept (OwnPlace a w) (AboveSave a) w (w₁.reportReading l filepath e) := by
  unfold Workspace.reportReading
  split
  · exact h.reportInput _
  · exact h.reportAbout _ _ _

theorem Starts.setUp_eq (h : Starts a w config o l w₁) :
    (setUp w.files a).outcome.1 = .ok (config, o) := by
  obtain ⟨hsettings, -, -⟩ := h
  exact congrArg Prod.fst hsettings

theorem Starts.unpublished (ha : a.Chosen) (h : Starts a w config o l w₁) :
    Unpublished a w l w₁ := by
  have hsetUp := h.setUp_eq
  obtain ⟨hsettings, hlogger, hopen⟩ := h
  rename_i l₀ w₁
  have hadmits : Workspace.Admits (OwnPlace a w) l₀ := by
    intro file hfile
    have hlog := Logger.file_of_ofSettings (Settings.settled_of_setUp ha hsetUp) hlogger
    exact .inl ⟨config, o, hsetUp, file, hlog ▸ hfile, rfl⟩
  obtain ⟨hadmits', hopened⟩ := Workspace.kept_openLog hadmits hopen
  exact ⟨hadmits', ((Workspace.kept_showEarly _ w).trans hopened).trans
    (Workspace.kept_emit hadmits' _ _)⟩

theorem kept_saved {files : Files} {v : Value} {outcome : Except Settings.SaveError Unit}
    (hasked : Arguments.given a.writeConfig = true)
    (hsave : Settings.save w₁.files (.ofText (a.writeConfig.getD "")) true v = (files, outcome)) :
    Workspace.Kept (OwnPlace a w) (AboveSave a) w₁ { w₁ with files } := by
  have hplace : OwnPlace a w (Path.ofText (a.writeConfig.getD "")).place := .inr ⟨hasked, rfl⟩
  have hkept := Settings.kept_save hplace w₁.files v
  rw [hsave] at hkept
  exact Workspace.kept_files (hkept.mono (fun _ h => h) fun _ h => ⟨hasked, h⟩)

theorem Prepares.unpublished (ha : a.Chosen) (h : Prepares a w config o l w₁) :
    Unpublished a w l w₁ := by
  cases h with
  | unasked hstarts hasked => exact hstarts.unpublished ha
  | saved hstarts hasked hsave =>
    have hsaved := (hstarts.unpublished ha).onward (kept_saved hasked hsave)
    exact hsaved.onward (Workspace.kept_tell _ _ _)

/-- What is read is what there was, unless the log or the saved settings are read. -/
inductive IsInput (a : Arguments) (w : Workspace) (filepath : String) : Bytes → Prop
  | stream (hpath : filepath = "-") : IsInput a w filepath w.input
  | file {data : Bytes} (hpath : filepath ≠ "-")
    (hentry : w.files.entry? (Path.ofText filepath).place = some (.file data)) :
    IsInput a w filepath data
  | own {data : Bytes} (hpath : filepath ≠ "-")
    (hown : OwnPlace a w (Path.ofText filepath).place) : IsInput a w filepath data

theorem Unpublished.isInput {filepath : String} {data : Bytes} (h : Unpublished a w l w₁)
    (hbytes : inputBytes filepath w₁ = .ok data) : IsInput a w filepath data := by
  unfold inputBytes at hbytes
  split at hbytes
  · cases hbytes
    rw [h.kept.input]
    exact .stream ‹_›
  · by_cases hown : OwnPlace a w (Path.ofText filepath).place
    · exact .own ‹_› hown
    · exact .file ‹_› (h.kept.files.file hown (Files.entry?_of_read hbytes))

/-- A text is what the input is rewritten to. The input is read after the log is open and the settings
are saved. -/
inductive Transforms (libs : Libraries) (a : Arguments) (w : Workspace)
    (result : String) : Prop
  | intro {config : Entries} {o : Options} {l : Logger} {filepath : String} {data : Bytes}
    {source : Source} {w₁ : Workspace} (hprepares : Prepares a w config o l w₁)
    (hinput : a.filepath = some filepath) (hbytes : inputBytes filepath w₁ = .ok data)
    (hdata : IsInput a w filepath data)
    (hdecode : (decodeInput libs a config data).outcome.1 = .ok source)
    (hrewrite : (rewrite libs config o source).outcome.1 = .ok (some result))

theorem Reads.unpublished (ha : a.Chosen) (h : Reads libs a w config o l source w₁) :
    Unpublished a w l w₁ := by
  obtain ⟨hprepares, hinput, hbytes, hdecode⟩ := h
  exact (hprepares.unpublished ha).showAll _

theorem Rewrites.unpublished {result : Option String} (ha : a.Chosen)
    (h : Rewrites libs a w l result w₁) : Unpublished a w l w₁ := by
  obtain ⟨hreads, hrewrite⟩ := h
  exact (hreads.unpublished ha).showAll _

theorem Rewrites.transforms {result : String} (ha : a.Chosen)
    (h : Rewrites libs a w l (some result) w₁) : Transforms libs a w result := by
  obtain ⟨hreads, hrewrite⟩ := h
  obtain ⟨hprepares, hinput, hbytes, hdecode⟩ := hreads
  exact .intro hprepares hinput hbytes ((hprepares.unpublished ha).isInput hbytes)
    (congrArg Prod.fst hdecode) (congrArg Prod.fst hrewrite)

theorem Transforms.input {result : String} (h : Transforms libs a w result) : a.filepath ≠ none := by
  obtain ⟨-, hinput, -, -, -, -⟩ := h
  rw [hinput]
  exact Option.some_ne_none _

/-! ## Whole runs -/

/-- What a run with an exit code comes to: it publishes nothing, or prints its result, or writes it. -/
inductive Publishes (libs : Libraries) (a : Arguments) (w : Workspace) :
    Nat → Workspace → Prop
  | nothing {code : Nat} {w' : Workspace} (hcode : code = 1 ∨ code = 0 ∧ a.filepath = none)
    (hkept : Workspace.Kept (OwnPlace a w) (AboveSave a) w w') : Publishes libs a w code w'
  | printed {result : String} {w₁ : Workspace} (htransforms : Transforms libs a w result)
    (hkept : Workspace.Kept (OwnPlace a w) (AboveSave a) w w₁)
    (hasked : Arguments.given a.output = false) : Publishes libs a w 0 (w₁.print result)
  | written {result : String} {w₁ w' : Workspace} (htransforms : Transforms libs a w result)
    (hkept : Workspace.Kept (OwnPlace a w) (AboveSave a) w w₁)
    (hasked : Arguments.given a.output = true) (hstdout : w'.stdout = w₁.stdout)
    (hwrite : w₁.files.write (.ofText (a.output.getD "")) result.toUTF8.toList = .ok w'.files) :
    Publishes libs a w 0 w'

theorem Runs.publishes (ha : a.Chosen) {code : Nat} (h : Runs libs a w (.exit code) w') :
    Publishes libs a w code w' := by
  cases h with
  | unsettled hsettings he =>
    exact .nothing (.inl rfl) ((Workspace.kept_showEarly _ w).trans (Workspace.kept_tell _ _ _))
  | unsaved hstarts hasked hsave =>
    have hsaved := (hstarts.unpublished ha).onward (kept_saved hasked hsave)
    exact .nothing (.inl rfl) (hsaved.report _ _)
  | done hprepares hinput =>
    exact .nothing (.inr ⟨rfl, hinput⟩) (hprepares.unpublished ha).kept
  | unread hprepares hinput hbytes =>
    exact .nothing (.inl rfl) ((hprepares.unpublished ha).reportReading _ _)
  | undecoded hprepares hinput hbytes hdecode =>
    exact .nothing (.inl rfl) (((hprepares.unpublished ha).showAll _).reportReading _ _)
  | refused hreads hrewrite he =>
    exact .nothing (.inl rfl) (((hreads.unpublished ha).showAll _).reportInput _)
  | printed hrewrites hasked =>
    exact .printed (hrewrites.transforms ha) (hrewrites.unpublished ha).kept hasked
  | unwritten hrewrites hasked hwrite hf =>
    exact .nothing (.inl rfl) ((hrewrites.unpublished ha).reportAbout _ _ _)
  | written hrewrites hasked hwrite =>
    exact .written (hrewrites.transforms ha) (hrewrites.unpublished ha).kept hasked rfl hwrite

end Run

theorem input_of_check {a : Arguments} (h : a.check = .ok ())
    (houtput : Arguments.given a.output = true) : a.filepath ≠ none := by
  intro hnone
  rw [Arguments.check, houtput, hnone] at h
  split at h <;> cases h

open Run (Transforms OwnPlace OutputPlace AboveSave)

/-- A run for a command line that is admitted prints what its input is rewritten to, if it comes to its
end, has an input and no output is asked for, and nothing otherwise. If an output is asked for and the
run comes to its end, the result is there. No place has another entry afterwards but those of the log,
of the saved settings and, if the run did not fail, of the output; only where there was nothing above
the saved settings there may be a directory. -/
theorem run_effects {args : List String} {a : Arguments} (hread : Arguments.read args = .ok a)
    (hcheck : a.check = .ok ()) {libs : Libraries} {w w' : Workspace} {code : Nat}
    (hrun : runCommand libs args w = (.exit code, w')) :
    (code = 0 ∧ a.filepath ≠ none ∧ Arguments.given a.output = false →
      ∃ result, Transforms libs a w result ∧ w'.stdout = w.stdout ++ result) ∧
    (¬(code = 0 ∧ a.filepath ≠ none ∧ Arguments.given a.output = false) →
      w'.stdout = w.stdout) ∧
    (code = 0 ∧ Arguments.given a.output = true → ∃ result, Transforms libs a w result ∧
      ∀ m, OutputPlace a m → w'.files.entry? m = some (.file result.toUTF8.toList)) ∧
    ∀ m, ¬OwnPlace a w m → (code = 1 ∨ ¬OutputPlace a m) →
      w'.files.entry? m = w.files.entry? m ∨
        AboveSave a m ∧ w.files.entry? m = none ∧ w'.files.entry? m = some .directory := by
  rw [runCommand_of_read libs hread hcheck, Run.run_eq_iff] at hrun
  cases hrun.publishes (Arguments.chosen_of_read hread) with
  | nothing hcode hkept =>
    refine ⟨fun ⟨hzero, hinput, _⟩ => ?_, fun _ => hkept.stdout, fun ⟨hzero, hasked⟩ => ?_,
      fun m hm _ => hkept.files m hm⟩
    · rcases hcode with hone | ⟨-, hnone⟩
      · cases hone.symm.trans hzero
      · exact absurd hnone hinput
    · rcases hcode with hone | ⟨-, hnone⟩
      · cases hone.symm.trans hzero
      · exact absurd hnone (input_of_check hcheck hasked)
  | printed htransforms hkept hasked =>
    refine ⟨fun _ => ⟨_, htransforms, ?_⟩, fun h => ?_, fun ⟨_, hgiven⟩ => ?_,
      fun m hm _ => hkept.files m hm⟩
    · exact congrArg (· ++ _) hkept.stdout
    · exact absurd ⟨rfl, htransforms.input, hasked⟩ h
    · rw [hasked] at hgiven
      cases hgiven
  | written htransforms hkept hasked hstdout hwrite =>
    refine ⟨fun ⟨_, _, hgiven⟩ => ?_, fun _ => hstdout.trans hkept.stdout,
      fun _ => ⟨_, htransforms, ?_⟩, fun m hm hother => ?_⟩
    · rw [hasked] at hgiven
      cases hgiven
    · rintro m ⟨-, rfl⟩
      exact Files.entry?_of_read (Files.read_of_write hwrite "")
    · -- The output is written last and at its own place only; all else has been kept before.
      have hplace : m ≠ (Path.ofText (a.output.getD "")).place :=
        fun h => hother.elim nofun fun hm => hm ⟨hasked, h⟩
      rw [Files.entry?_change hwrite hplace]
      exact hkept.files m hm

/-- A run that finds no input does not make its output. -/
theorem run_effects_missing :
    ∃ w', runCommand {} ["-o", "out.txt", "in.txt"] { files := [] } = (.exit 1, w') ∧
      w'.stdout = "" ∧ w'.files.entry? ["out.txt"] = none := by
  have hread : Arguments.read ["-o", "out.txt", "in.txt"] =
      .ok { output := some "out.txt", filepath := some "in.txt" } := rfl
  have hrun : (runCommand {} ["-o", "out.txt", "in.txt"] { files := [] }).1 =
      .exit 1 := rfl
  obtain ⟨-, hstdout, -, hfiles⟩ := run_effects hread rfl (Prod.ext hrun rfl)
  refine ⟨_, Prod.ext hrun rfl, hstdout fun h => (nomatch h.1), ?_⟩
  have hown : ¬OwnPlace { output := some "out.txt", filepath := some "in.txt" } { files := [] }
      ["out.txt"] := by
    rintro (⟨config, o, hsettings, file, hfile, -⟩ | ⟨hasked, -⟩)
    · cases hsettings
      cases hfile
    · cases hasked
  rcases hfiles ["out.txt"] hown (.inl rfl) with hsame | ⟨⟨hasked, -⟩, -⟩
  · exact hsame.trans (by decide +kernel)
  · cases hasked

/-- A run that fails may make a directory in the place of its output, where that is above the place
that the settings are saved to. -/
theorem failed_run_makes_directory :
    let args := ["-o", "out", "--write-config", "out/..", "in.txt"]
    let w : Workspace := { files := [(["in.txt"], .file [97])] }
    ∃ a w', Arguments.read args = .ok a ∧ a.check = .ok () ∧
      runCommand {} args w = (.exit 1, w') ∧
      OutputPlace a ["out"] ∧ ¬OwnPlace a w ["out"] ∧
      w.files.entry? ["out"] = none ∧ w'.files.entry? ["out"] = some .directory := by
  intro args w
  have hrun : (runCommand {} args w).1 = .exit 1 := rfl
  refine ⟨_, _, rfl, rfl, Prod.ext hrun rfl, ⟨rfl, by decide +kernel⟩, ?_, by decide +kernel,
    by decide +kernel⟩
  rintro (⟨config, o, hsettings, file, hfile, -⟩ | ⟨-, hplace⟩)
  · cases hsettings
    cases hfile
  · exact absurd hplace (by decide +kernel)

end LineJoin
