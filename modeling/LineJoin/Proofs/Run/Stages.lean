import LineJoin.Proofs.Results
import LineJoin.Run

/-!
# The stages of a run

A run settles its settings, opens its log, saves the settings if that is asked for, reads the input,
rewrites it and puts the result where it belongs. The relations below say how far a run has come and
what the workspace is like then. `Runs` says how a run can end, one case for each place where it does,
and `run_eq_iff` that a run ends as `Runs` says and in no other way.
-/

namespace LineJoin

namespace Workspace

/-- Shows records that are kept before there is a logger. -/
def showEarly (records : List Record) (w : Workspace) : Workspace :=
  records.foldl (fun w r => w.emitEarly r) w

/-- Shows records. -/
def showAll (l : Logger) (records : List Record) (w : Workspace) : Workspace :=
  records.foldl (fun w r => w.emit l r) w

/-- Reports an error in the log and to the user. -/
def reportAbout (l : Logger) (lead subject message : String) (w : Workspace) : Workspace :=
  (w.emit l ⟨.error, .application, lead ++ subject ++ ": " ++ message, false⟩).tell .failure
    (lead.toList ++ Run.escaped subject ++ ": ".toList ++ Run.escaped message)

/-- Reports an input that is wrong in itself in the log and to the user. -/
def reportInput (l : Logger) (message : String) (w : Workspace) : Workspace :=
  (w.emit l ⟨.error, .application, "Invalid input or break rule", true⟩).tell .failure
    ("Error: ".toList ++ Run.escaped message)

/-- Reports that an input is not read. -/
def reportReading (l : Logger) (filepath : String) (e : ReadError) (w : Workspace) : Workspace :=
  if e.isWrongValue then w.reportInput l e.message
  else w.reportAbout l "Failed to read " filepath e.message

end Workspace

namespace Run

open Settings (setUp save effective)

/-- The settings are read, the log is open, and the options are noted in it. -/
inductive Starts (a : Arguments) (w : Workspace) :
    Entries → Options → Logger → Workspace → Prop
  | intro {config : Entries} {o : Options} {records : List Record} {l₀ l : Logger}
    {w₁ : Workspace} (hsettings : (setUp w.files a).outcome = (.ok (config, o), records))
    (hlogger : Logger.ofSettings config = .ok l₀)
    (hopen : (w.showEarly records).openLog l₀ = (l, w₁)) :
    Starts a w config o l
      (w₁.emit l ⟨.debug, .application, "Effective options: " ++ o.text, false⟩)

/-- The settings are saved if that is asked for. -/
inductive Prepares (a : Arguments) (w : Workspace) :
    Entries → Options → Logger → Workspace → Prop
  | unasked {config : Entries} {o : Options} {l : Logger} {w₁ : Workspace}
    (hstarts : Starts a w config o l w₁) (hasked : Arguments.given a.writeConfig = false) :
    Prepares a w config o l w₁
  | saved {config : Entries} {o : Options} {l : Logger} {w₁ : Workspace} {files : Files}
    (hstarts : Starts a w config o l w₁) (hasked : Arguments.given a.writeConfig = true)
    (hsave : save w₁.files (.ofText (a.writeConfig.getD "")) true (.dict (effective config o)) =
      (files, .ok ())) :
    Prepares a w config o l (Workspace.tell .success
      ("Saved configuration to ".toList ++ escaped (a.writeConfig.getD "")) { w₁ with files })

/-- The input is read and decoded. -/
inductive Reads (libs : Libraries) (a : Arguments) (w : Workspace) :
    Entries → Options → Logger → Source → Workspace → Prop
  | intro {config : Entries} {o : Options} {l : Logger} {w₁ : Workspace} {filepath : String}
    {data : Bytes} {source : Source} {records : List Record}
    (hprepares : Prepares a w config o l w₁) (hinput : a.filepath = some filepath)
    (hbytes : inputBytes filepath w₁ = .ok data)
    (hdecode : (decodeInput libs a config data).outcome = (.ok source, records)) :
    Reads libs a w config o l source (w₁.showAll l records)

/-- The input is rewritten, to a result unless halves are left. Nothing of it has been published
yet. -/
inductive Rewrites (libs : Libraries) (a : Arguments) (w : Workspace) :
    Logger → Option String → Workspace → Prop
  | intro {config : Entries} {o : Options} {l : Logger} {source : Source} {result : Option String}
    {w₁ : Workspace} {records : List Record} (hreads : Reads libs a w config o l source w₁)
    (hrewrite : (rewrite libs config o source).outcome = (.ok result, records)) :
    Rewrites libs a w l result (w₁.showAll l records)

/-- How a run ends, and the workspace that it leaves. -/
inductive Runs (libs : Libraries) (a : Arguments) (w : Workspace) :
    Ending → Workspace → Prop
  | unsettled {e : Settings.SetupError} {records : List Record}
    (hsettings : (setUp w.files a).outcome = (.error e, records)) (he : e.isHandled = true) :
    Runs libs a w (.exit 1) ((w.showEarly records).tell .failure
      ("Configuration error: ".toList ++ escaped e.message))
  | settingsEscape {e : Settings.SetupError} {records : List Record}
    (hsettings : (setUp w.files a).outcome = (.error e, records)) (he : e.isHandled = false) :
    Runs libs a w (.error (.settings e)) (w.showEarly records)
  | loggerEscape {config : Entries} {o : Options} {records : List Record} {e : LoggerError}
    (hsettings : (setUp w.files a).outcome = (.ok (config, o), records))
    (hlogger : Logger.ofSettings config = .error e) :
    Runs libs a w (.error (.logging e)) (w.showEarly records)
  | unsaved {config : Entries} {o : Options} {l : Logger} {w₁ : Workspace} {files : Files}
    {e : Settings.SaveError} (hstarts : Starts a w config o l w₁)
    (hasked : Arguments.given a.writeConfig = true)
    (hsave : save w₁.files (.ofText (a.writeConfig.getD "")) true (.dict (effective config o)) =
      (files, .error e)) :
    Runs libs a w (.exit 1) ((Workspace.emit l ⟨.error, .application,
      "Failed to save configuration: " ++ e.message, false⟩ { w₁ with files }).tell .failure
      ("Failed to save configuration: ".toList ++ escaped e.message))
  | done {config : Entries} {o : Options} {l : Logger} {w₁ : Workspace}
    (hprepares : Prepares a w config o l w₁) (hinput : a.filepath = none) :
    Runs libs a w (.exit 0) w₁
  | unread {config : Entries} {o : Options} {l : Logger} {w₁ : Workspace} {filepath : String}
    {f : FileFault} (hprepares : Prepares a w config o l w₁) (hinput : a.filepath = some filepath)
    (hbytes : inputBytes filepath w₁ = .error f) :
    Runs libs a w (.exit 1) (w₁.reportReading l filepath (.file f))
  | undecoded {config : Entries} {o : Options} {l : Logger} {w₁ : Workspace} {filepath : String}
    {data : Bytes} {e : ReadError} {records : List Record} (hprepares : Prepares a w config o l w₁)
    (hinput : a.filepath = some filepath) (hbytes : inputBytes filepath w₁ = .ok data)
    (hdecode : (decodeInput libs a config data).outcome = (.error e, records)) :
    Runs libs a w (.exit 1) ((w₁.showAll l records).reportReading l filepath e)
  | refused {config : Entries} {o : Options} {l : Logger} {source : Source} {w₁ : Workspace}
    {e : DocumentError} {records : List Record} (hreads : Reads libs a w config o l source w₁)
    (hrewrite : (rewrite libs config o source).outcome = (.error e, records))
    (he : e.isHandled = true) :
    Runs libs a w (.exit 1) ((w₁.showAll l records).reportInput l e.message)
  | documentEscape {config : Entries} {o : Options} {l : Logger} {source : Source} {w₁ : Workspace}
    {e : DocumentError} {records : List Record} (hreads : Reads libs a w config o l source w₁)
    (hrewrite : (rewrite libs config o source).outcome = (.error e, records))
    (he : e.isHandled = false) :
    Runs libs a w (.error (.document e)) (w₁.showAll l records)
  | printed {l : Logger} {result : String} {w₁ : Workspace}
    (hrewrites : Rewrites libs a w l (some result) w₁)
    (hasked : Arguments.given a.output = false) :
    Runs libs a w (.exit 0) (w₁.print result)
  | unprinted {l : Logger} {w₁ : Workspace} (hrewrites : Rewrites libs a w l none w₁)
    (hasked : Arguments.given a.output = false) : Runs libs a w (.error .halves) w₁
  | unwritten {l : Logger} {result : Option String} {w₁ : Workspace} {f : FileFault}
    (hrewrites : Rewrites libs a w l result w₁) (hasked : Arguments.given a.output = true)
    (hwrite : w₁.files.write (.ofText (a.output.getD "")) (bytesOf result) = .error f)
    (hf : f.isWrongValue = false) :
    Runs libs a w (.exit 1) (w₁.reportAbout l "Failed to write " (a.output.getD "") f.message)
  | outputEscape {l : Logger} {result : Option String} {w₁ : Workspace} {f : FileFault}
    (hrewrites : Rewrites libs a w l result w₁) (hasked : Arguments.given a.output = true)
    (hwrite : w₁.files.write (.ofText (a.output.getD "")) (bytesOf result) = .error f)
    (hf : f.isWrongValue = true) : Runs libs a w (.error (.output f)) w₁
  | emptied {l : Logger} {w₁ : Workspace} {files : Files}
    (hrewrites : Rewrites libs a w l none w₁) (hasked : Arguments.given a.output = true)
    (hwrite : w₁.files.write (.ofText (a.output.getD "")) [] = .ok files) :
    Runs libs a w (.error .halves) { w₁ with files }
  | written {l : Logger} {result : String} {w₁ : Workspace} {files : Files}
    (hrewrites : Rewrites libs a w l (some result) w₁)
    (hasked : Arguments.given a.output = true)
    (hwrite : w₁.files.write (.ofText (a.output.getD "")) result.toUTF8.toList = .ok files) :
    Runs libs a w (.exit 0) (Workspace.tell .success
      ("Wrote ".toList ++ escaped (a.output.getD "")) { w₁ with files })

/-! ## Steps -/

section Steps

variable {libs : Libraries} {a : Arguments} {w w₁ : Workspace} {l : Logger}
  {config : Entries} {o : Options} {source : Source} {result : Option String} {filepath : String}

/-- The end of a run, once the result is there. -/
def publish (l : Logger) (a : Arguments) (result : Option String) : Running Unit :=
  if Arguments.given a.output then writeResult l (a.output.getD "") result
  else printResult result

/-- The rest of a run, once the input is read. -/
def transform (libs : Libraries) (l : Logger) (a : Arguments) (config : Entries) (o : Options)
    (source : Source) : Running Unit := do
  let result ← rewriteSource libs l config o source
  publish l a result

/-- The rest of a run, once everything is prepared. -/
def process (libs : Libraries) (l : Logger) (a : Arguments) (config : Entries)
    (o : Options) : Running Unit := do
  match a.filepath with
  | none => return
  | some filepath =>
    let source ← readSource libs l a config filepath
    transform libs l a config o source

/-- The rest of a run, once the log is open. -/
def proceed (libs : Libraries) (l : Logger) (a : Arguments) (config : Entries)
    (o : Options) : Running Unit := do
  if Arguments.given a.writeConfig then saveSettings l (a.writeConfig.getD "") config o
  process libs l a config o

theorem body_eq (libs : Libraries) (a : Arguments) :
    body libs a = (do
      let (config, o) ← settle a
      let l ← startLogging config
      record l .debug ("Effective options: " ++ o.text)
      proceed libs l a config o) := by
  rfl

@[simp]
theorem run_get (w : Workspace) : (get : Running Workspace).run.run w = (.ok w, w) := rfl

@[simp]
theorem run_set (w w₁ : Workspace) : (set w₁ : Running Unit).run.run w = (.ok (), w₁) := rfl

@[simp]
theorem run_change (f : Workspace → Workspace) (w : Workspace) :
    (change f).run.run w = (.ok (), f w) := rfl

@[simp]
theorem run_pure {α : Type} (v : α) (w : Workspace) :
    (pure v : Running α).run.run w = (.ok v, w) := rfl

@[simp]
theorem run_throw {α : Type} (ending : Ending) (w : Workspace) :
    (throw ending : Running α).run.run w = (.error ending, w) := rfl

@[simp]
theorem run_fail {α : Type} (message : List Char) (w : Workspace) :
    (fail message : Running α).run.run w = (.error (.exit 1), w.tell .failure message) := rfl

@[simp]
theorem run_failAbout {α : Type} (l : Logger) (lead subject message : String) (w : Workspace) :
    (failAbout l lead subject message : Running α).run.run w =
      (.error (.exit 1), w.reportAbout l lead subject message) := rfl

@[simp]
theorem run_failInput {α : Type} (l : Logger) (message : String) (w : Workspace) :
    (failInput l message : Running α).run.run w = (.error (.exit 1), w.reportInput l message) := rfl

@[simp]
theorem run_failReading {α : Type} (l : Logger) (filepath : String) (e : ReadError)
    (w : Workspace) : (failReading l filepath e : Running α).run.run w =
      (.error (.exit 1), w.reportReading l filepath e) := by
  rw [failReading, Workspace.reportReading]
  cases e.isWrongValue <;> rfl

@[simp]
theorem run_logging {ε α : Type} (l : Logger) (x : Logged ε α) (w : Workspace) :
    (logging l x).run.run w = (.ok x.outcome.1, w.showAll l x.outcome.2) := rfl

theorem settle_ok {records : List Record}
    (h : (setUp w.files a).outcome = (.ok (config, o), records)) :
    (settle a).run.run w = (.ok (config, o), w.showEarly records) := by
  rw [settle, run_bind, run_get]
  dsimp only
  rw [h]
  rfl

theorem settle_error {e : Settings.SetupError} {records : List Record}
    (h : (setUp w.files a).outcome = (.error e, records)) :
    (settle a).run.run w = if e.isHandled then
      (.error (.exit 1), (w.showEarly records).tell .failure
        ("Configuration error: ".toList ++ escaped e.message))
      else (.error (.error (.settings e)), w.showEarly records) := by
  simp only [settle, run_bind, run_get, h, run_change]
  cases e.isHandled <;> rfl

theorem startLogging_ok {l₀ : Logger} (h : Logger.ofSettings config = .ok l₀) :
    (startLogging config).run.run w = (.ok (w.openLog l₀).1, (w.openLog l₀).2) := by
  simp only [startLogging, h, run_bind, run_get, run_set, run_pure]

theorem startLogging_error {e : LoggerError} (h : Logger.ofSettings config = .error e) :
    (startLogging config).run.run w = (.error (.error (.logging e)), w) := by
  simp only [startLogging, h, run_throw]

theorem saveSettings_ok {path : String} {files : Files}
    (h : save w.files (.ofText path) true (.dict (effective config o)) = (files, .ok ())) :
    (saveSettings l path config o).run.run w = (.ok (), Workspace.tell .success
      ("Saved configuration to ".toList ++ escaped path) { w with files }) := by
  simp only [saveSettings, run_bind, run_get, run_set, h, run_change]

theorem saveSettings_error {path : String} {files : Files} {e : Settings.SaveError}
    (h : save w.files (.ofText path) true (.dict (effective config o)) = (files, .error e)) :
    (saveSettings l path config o).run.run w =
      (.error (.exit 1), (Workspace.emit l ⟨.error, .application,
        "Failed to save configuration: " ++ e.message, false⟩ { w with files }).tell .failure
        ("Failed to save configuration: ".toList ++ escaped e.message)) := by
  simp only [saveSettings, run_bind, run_get, run_set, h, record, run_change, run_fail]

theorem readSource_unread {f : FileFault} (h : inputBytes filepath w = .error f) :
    (readSource libs l a config filepath).run.run w =
      (.error (.exit 1), w.reportReading l filepath (.file f)) := by
  simp only [readSource, run_bind, run_get, h, run_failReading]

theorem readSource_decoded {data : Bytes} (h : inputBytes filepath w = .ok data) :
    (readSource libs l a config filepath).run.run w =
      match (decodeInput libs a config data).outcome with
      | (.ok source, records) => (.ok source, w.showAll l records)
      | (.error e, records) =>
        (.error (.exit 1), (w.showAll l records).reportReading l filepath e) := by
  simp only [readSource, run_bind, run_get, h, run_logging]
  obtain ⟨e | _, _⟩ := (decodeInput libs a config data).outcome
  · exact run_failReading l filepath e _
  · rfl

theorem rewriteSource_ok {records : List Record}
    (h : (rewrite libs config o source).outcome = (.ok result, records)) :
    (rewriteSource libs l config o source).run.run w = (.ok result, w.showAll l records) := by
  simp only [rewriteSource, run_bind, run_logging, h, run_pure]

theorem rewriteSource_error {e : DocumentError} {records : List Record}
    (h : (rewrite libs config o source).outcome = (.error e, records)) :
    (rewriteSource libs l config o source).run.run w = if e.isHandled then
      (.error (.exit 1), (w.showAll l records).reportInput l e.message)
      else (.error (.error (.document e)), w.showAll l records) := by
  simp only [rewriteSource, run_bind, run_logging, h]
  cases e.isHandled <;> rfl

theorem writeResult_ok {output : String} {files : Files}
    (h : w.files.write (.ofText output) (bytesOf result) = .ok files) :
    (writeResult l output result).run.run w = match result with
      | some _ => (.ok (), Workspace.tell .success ("Wrote ".toList ++ escaped output)
          { w with files })
      | none => (.error (.error .halves), { w with files }) := by
  simp only [writeResult, run_bind, run_get, h, run_set]
  cases result <;> rfl

theorem writeResult_error {output : String} {f : FileFault}
    (h : w.files.write (.ofText output) (bytesOf result) = .error f) :
    (writeResult l output result).run.run w = if f.isWrongValue then
      (.error (.error (.output f)), w)
      else (.error (.exit 1), w.reportAbout l "Failed to write " output f.message) := by
  simp only [writeResult, run_bind, run_get, h]
  cases f.isWrongValue <;> rfl

/-! ## What is left of a run at each stage -/

theorem Starts.run_body (h : Starts a w config o l w₁) :
    (body libs a).run.run w = (proceed libs l a config o).run.run w₁ := by
  obtain ⟨hsettings, hlogger, hopen⟩ := h
  rw [body_eq, run_bind, settle_ok hsettings]
  dsimp only
  rw [run_bind, startLogging_ok hlogger, hopen]
  dsimp only
  rw [run_bind, record, run_change]

theorem Prepares.run_body (h : Prepares a w config o l w₁) :
    (body libs a).run.run w = (process libs l a config o).run.run w₁ := by
  cases h with
  | unasked hstarts hasked =>
    rw [hstarts.run_body, proceed, if_neg (Bool.eq_false_iff.mp hasked)]
  | saved hstarts hasked hsave =>
    rw [hstarts.run_body, proceed, if_pos hasked, run_bind, saveSettings_ok hsave]

theorem Reads.run_body (h : Reads libs a w config o l source w₁) :
    (body libs a).run.run w = (transform libs l a config o source).run.run w₁ := by
  obtain ⟨hprepares, hinput, hbytes, hdecode⟩ := h
  rw [hprepares.run_body, process, hinput]
  dsimp only
  rw [run_bind, readSource_decoded hbytes, hdecode]

theorem Rewrites.run_body (h : Rewrites libs a w l result w₁) :
    (body libs a).run.run w = (publish l a result).run.run w₁ := by
  obtain ⟨hreads, hrewrite⟩ := h
  rw [hreads.run_body, transform, run_bind, rewriteSource_ok hrewrite]

theorem run_of_ok {w' : Workspace} (h : (body libs a).run.run w = (.ok (), w')) :
    run libs a w = (.exit 0, w') := by
  rw [run, show (body libs a).run w = _ from h]

theorem run_of_error {ending : Ending} {w' : Workspace}
    (h : (body libs a).run.run w = (.error ending, w')) :
    run libs a w = (ending, w') := by
  rw [run, show (body libs a).run w = _ from h]

theorem Runs.run_eq {ending : Ending} {w' : Workspace} (h : Runs libs a w ending w') :
    run libs a w = (ending, w') := by
  cases h with
  | unsettled hsettings he =>
    apply run_of_error
    rw [body_eq, run_bind, settle_error hsettings, if_pos he]
  | settingsEscape hsettings he =>
    apply run_of_error
    rw [body_eq, run_bind, settle_error hsettings, if_neg (Bool.eq_false_iff.mp he)]
  | loggerEscape hsettings hlogger =>
    apply run_of_error
    rw [body_eq, run_bind, settle_ok hsettings]
    dsimp only
    rw [run_bind, startLogging_error hlogger]
  | unsaved hstarts hasked hsave =>
    apply run_of_error
    rw [hstarts.run_body, proceed, if_pos hasked, run_bind, saveSettings_error hsave]
  | done hprepares hinput =>
    apply run_of_ok
    rw [hprepares.run_body, process, hinput]
    rfl
  | unread hprepares hinput hbytes =>
    apply run_of_error
    rw [hprepares.run_body, process, hinput]
    dsimp only
    rw [run_bind, readSource_unread hbytes]
  | undecoded hprepares hinput hbytes hdecode =>
    apply run_of_error
    rw [hprepares.run_body, process, hinput]
    dsimp only
    rw [run_bind, readSource_decoded hbytes, hdecode]
  | refused hreads hrewrite he =>
    apply run_of_error
    rw [hreads.run_body, transform, run_bind, rewriteSource_error hrewrite, if_pos he]
  | documentEscape hreads hrewrite he =>
    apply run_of_error
    rw [hreads.run_body, transform, run_bind, rewriteSource_error hrewrite,
      if_neg (Bool.eq_false_iff.mp he)]
  | printed hrewrites hasked =>
    apply run_of_ok
    rw [hrewrites.run_body, publish, if_neg (Bool.eq_false_iff.mp hasked)]
    rfl
  | unprinted hrewrites hasked =>
    apply run_of_error
    rw [hrewrites.run_body, publish, if_neg (Bool.eq_false_iff.mp hasked)]
    rfl
  | unwritten hrewrites hasked hwrite hf =>
    apply run_of_error
    rw [hrewrites.run_body, publish, if_pos hasked, writeResult_error hwrite,
      if_neg (Bool.eq_false_iff.mp hf)]
  | outputEscape hrewrites hasked hwrite hf =>
    apply run_of_error
    rw [hrewrites.run_body, publish, if_pos hasked, writeResult_error hwrite, if_pos hf]
  | emptied hrewrites hasked hwrite =>
    apply run_of_error
    rw [hrewrites.run_body, publish, if_pos hasked, writeResult_ok hwrite]
  | written hrewrites hasked hwrite =>
    apply run_of_ok
    rw [hrewrites.run_body, publish, if_pos hasked, writeResult_ok hwrite]

/-! ## Every run is one of these -/

theorem Rewrites.exists_runs (h : Rewrites libs a w l result w₁) :
    ∃ ending w', Runs libs a w ending w' := by
  cases hasked : Arguments.given a.output with
  | false =>
    cases result with
    | some result => exact ⟨_, _, .printed h hasked⟩
    | none => exact ⟨_, _, .unprinted h hasked⟩
  | true =>
    cases hwrite : w₁.files.write (.ofText (a.output.getD "")) (bytesOf result) with
    | error f =>
      cases hf : f.isWrongValue with
      | false => exact ⟨_, _, .unwritten h hasked hwrite hf⟩
      | true => exact ⟨_, _, .outputEscape h hasked hwrite hf⟩
    | ok files =>
      cases result with
      | some result => exact ⟨_, _, .written h hasked hwrite⟩
      | none => exact ⟨_, _, .emptied h hasked hwrite⟩

theorem Reads.exists_runs (h : Reads libs a w config o l source w₁) :
    ∃ ending w', Runs libs a w ending w' := by
  cases hrewrite : (rewrite libs config o source).outcome with
  | mk outcome records =>
    cases outcome with
    | ok result => exact (Rewrites.intro h hrewrite).exists_runs
    | error e =>
      cases he : e.isHandled with
      | true => exact ⟨_, _, .refused h hrewrite he⟩
      | false => exact ⟨_, _, .documentEscape h hrewrite he⟩

theorem Prepares.exists_runs (h : Prepares a w config o l w₁) :
    ∃ ending w', Runs libs a w ending w' := by
  cases hinput : a.filepath with
  | none => exact ⟨_, _, .done h hinput⟩
  | some filepath =>
    cases hbytes : inputBytes filepath w₁ with
    | error f => exact ⟨_, _, .unread h hinput hbytes⟩
    | ok data =>
      cases hdecode : (decodeInput libs a config data).outcome with
      | mk outcome records =>
        cases outcome with
        | error e => exact ⟨_, _, .undecoded h hinput hbytes hdecode⟩
        | ok source => exact (Reads.intro h hinput hbytes hdecode).exists_runs

theorem Starts.exists_runs (h : Starts a w config o l w₁) :
    ∃ ending w', Runs libs a w ending w' := by
  cases hasked : Arguments.given a.writeConfig with
  | false => exact (Prepares.unasked h hasked).exists_runs
  | true =>
    cases hsave : save w₁.files (.ofText (a.writeConfig.getD "")) true
        (.dict (effective config o)) with
    | mk files outcome =>
      cases outcome with
      | ok u => exact (Prepares.saved h hasked hsave).exists_runs
      | error e => exact ⟨_, _, .unsaved h hasked hsave⟩

theorem exists_runs (libs : Libraries) (a : Arguments) (w : Workspace) :
    ∃ ending w', Runs libs a w ending w' := by
  cases hsettings : (setUp w.files a).outcome with
  | mk outcome records =>
    cases outcome with
    | error e =>
      cases he : e.isHandled with
      | true => exact ⟨_, _, .unsettled hsettings he⟩
      | false => exact ⟨_, _, .settingsEscape hsettings he⟩
    | ok settled =>
      cases hlogger : Logger.ofSettings settled.1 with
      | error e => exact ⟨_, _, .loggerEscape hsettings hlogger⟩
      | ok l => exact (Starts.intro hsettings hlogger rfl).exists_runs

/-- A run is one of the runs that there are, and there is one way only for it to end. -/
theorem run_eq_iff {ending : Ending} {w' : Workspace} :
    run libs a w = (ending, w') ↔ Runs libs a w ending w' := by
  refine ⟨fun h => ?_, Runs.run_eq⟩
  obtain ⟨ending₁, w₁, hruns⟩ := exists_runs libs a w
  cases h.symm.trans hruns.run_eq
  exact hruns

end Steps

end Run

end LineJoin
