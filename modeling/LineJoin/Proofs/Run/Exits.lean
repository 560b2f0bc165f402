import LineJoin.Proofs.Arguments.Choices
import LineJoin.Proofs.Files.Changes
import LineJoin.Proofs.Run.Documents
import LineJoin.Proofs.Run.Stages
import LineJoin.Proofs.Settings.Logging
import LineJoin.Proofs.Settings.Refusals
import LineJoin.Proofs.Settings.Unwritable
import LineJoin.Proofs.Value.Equality

/-!
# Exit codes

A run that is not ended by an error it does not handle has an exit code: zero if it came to its end,
one if it failed on the way. Not handled are some faults of the settings file, a log that cannot be set
up, a JSON document with a node whose children cannot be listed, a result in which halves of pairs are
left, and an output whose path has a null character.
-/

namespace LineJoin

namespace Run

open Settings (setUp save effective pathGiven LacksField NullInLogPath)

variable {libs : Libraries} {a : Arguments} {w : Workspace}

/-- A run comes to its end. -/
inductive Succeeds (libs : Libraries) (a : Arguments) (w : Workspace) : Prop
  | saved {config : Entries} {o : Options} {l : Logger} {w₁ : Workspace}
    (hprepares : Prepares a w config o l w₁) (hinput : a.filepath = none)
  | printed {l : Logger} {result : String} {w₁ : Workspace}
    (hrewrites : Rewrites libs a w l (some result) w₁)
    (hasked : Arguments.given a.output = false)
  | written {l : Logger} {result : String} {w₁ : Workspace} {files : Files}
    (hrewrites : Rewrites libs a w l (some result) w₁)
    (hasked : Arguments.given a.output = true)
    (hwrite : w₁.files.write (.ofText (a.output.getD "")) result.toUTF8.toList = .ok files)

/-- A run fails in a way that is handled: at its settings, at saving them, at the input, at a document
or a rule, or at the output. -/
inductive Fails (libs : Libraries) (a : Arguments) (w : Workspace) : Prop
  | settings {e : Settings.SetupError} (hsettings : (setUp w.files a).outcome.1 = .error e)
    (hpath : ∀ p, pathGiven a.config = some p → ¬Settings.Escapes w.files p)
  | saving {config : Entries} {o : Options} {l : Logger} {w₁ : Workspace} {e : Settings.SaveError}
    (hstarts : Starts a w config o l w₁) (hasked : Arguments.given a.writeConfig = true)
    (hsave : (save w₁.files (.ofText (a.writeConfig.getD "")) true
      (.dict (effective config o))).2 = .error e)
  | input {config : Entries} {o : Options} {l : Logger} {w₁ : Workspace} {filepath : String}
    {f : FileFault} (hprepares : Prepares a w config o l w₁) (hinput : a.filepath = some filepath)
    (hbytes : inputBytes filepath w₁ = .error f)
  | decoding {config : Entries} {o : Options} {l : Logger} {w₁ : Workspace} {filepath : String}
    {data : Bytes} {e : ReadError} (hprepares : Prepares a w config o l w₁)
    (hinput : a.filepath = some filepath) (hbytes : inputBytes filepath w₁ = .ok data)
    (hdecode : (decodeInput libs a config data).outcome.1 = .error e)
  | document {config : Entries} {o : Options} {l : Logger} {source : Source} {w₁ : Workspace}
    (hreads : Reads libs a w config o l source w₁) (hrefuses : Refuses libs config o source)
  | output {l : Logger} {result : Option String} {w₁ : Workspace} {f : FileFault}
    (hrewrites : Rewrites libs a w l result w₁) (hasked : Arguments.given a.output = true)
    (hwrite : w₁.files.write (.ofText (a.output.getD "")) (bytesOf result) = .error f)
    (hnull : (Path.ofText (a.output.getD "")).hasNull = false)

/-- A run is ended by an error that it does not handle. -/
inductive Escapes (libs : Libraries) (a : Arguments) (w : Workspace) : Prop
  | settings {p : Path} (hpath : pathGiven a.config = some p)
    (hescapes : Settings.Escapes w.files p)
  | log {config : Entries} {o : Options} (hsettings : (setUp w.files a).outcome.1 = .ok (config, o))
    (hlog : LacksField config ∨ NullInLogPath config)
  | document {config : Entries} {o : Options} {l : Logger} {source : Source} {w₁ : Workspace}
    (hreads : Reads libs a w config o l source w₁) (hbreaks : Breaks libs config o source)
  | halves {config : Entries} {o : Options} {l : Logger} {source : Source} {w₁ w₂ : Workspace}
    (hreads : Reads libs a w config o l source w₁) (hleaves : LeavesHalf libs config o source)
    (hrewritten : w₂ = w₁.showAll l (rewrite libs config o source).outcome.2)
    (hwrite : Arguments.given a.output = true →
      ∃ files, w₂.files.write (.ofText (a.output.getD "")) [] = .ok files)
  | output {l : Logger} {result : Option String} {w₁ : Workspace}
    (hrewrites : Rewrites libs a w l result w₁) (hasked : Arguments.given a.output = true)
    (hnull : (Path.ofText (a.output.getD "")).hasNull = true)

/-! ## How runs end -/

theorem Succeeds.runs (h : Succeeds libs a w) : ∃ w', Runs libs a w (.exit 0) w' := by
  cases h with
  | saved hprepares hinput => exact ⟨_, .done hprepares hinput⟩
  | printed hrewrites hasked => exact ⟨_, .printed hrewrites hasked⟩
  | written hrewrites hasked hwrite => exact ⟨_, .written hrewrites hasked hwrite⟩

/-- Settings that are refused and reported are not at a path that escapes. -/
theorem not_escapes_of_handled {e : Settings.SetupError} {p : Path}
    (hsettings : (setUp w.files a).outcome.1 = .error e) (he : e.isHandled = true)
    (hpath : pathGiven a.config = some p) : ¬Settings.Escapes w.files p := by
  intro hescapes
  obtain ⟨e', hsettings', hunhandled⟩ := Settings.setUp_escapes_iff.mpr ⟨p, hpath, hescapes⟩
  cases hsettings.symm.trans hsettings'
  rw [he] at hunhandled
  cases hunhandled

theorem Runs.fails {w' : Workspace} (h : Runs libs a w (.exit 1) w') :
    Fails libs a w := by
  cases h with
  | unsettled hsettings he =>
    have hrefused := congrArg Prod.fst hsettings
    exact .settings hrefused fun p hp => not_escapes_of_handled hrefused he hp
  | unsaved hstarts hasked hsave => exact .saving hstarts hasked (congrArg Prod.snd hsave)
  | unread hprepares hinput hbytes => exact .input hprepares hinput hbytes
  | undecoded hprepares hinput hbytes hdecode =>
    exact .decoding hprepares hinput hbytes (congrArg Prod.fst hdecode)
  | refused hreads hrewrite he =>
    exact .document hreads (rewrite_refused_iff.mp ⟨_, congrArg Prod.fst hrewrite, he⟩)
  | unwritten hrewrites hasked hwrite hf =>
    exact .output hrewrites hasked hwrite ((Files.isWrongValue_of_write hwrite).symm.trans hf)

theorem Fails.runs (h : Fails libs a w) : ∃ w', Runs libs a w (.exit 1) w' := by
  cases h with
  | @settings e hsettings hpath =>
    cases he : e.isHandled with
    | true => exact ⟨_, .unsettled (Prod.ext hsettings rfl) he⟩
    | false =>
      obtain ⟨p, hp, hescapes⟩ := Settings.setUp_escapes_iff.mp ⟨e, hsettings, he⟩
      exact absurd hescapes (hpath p hp)
  | saving hstarts hasked hsave => exact ⟨_, .unsaved hstarts hasked (Prod.ext rfl hsave)⟩
  | input hprepares hinput hbytes => exact ⟨_, .unread hprepares hinput hbytes⟩
  | decoding hprepares hinput hbytes hdecode =>
    exact ⟨_, .undecoded hprepares hinput hbytes (Prod.ext hdecode rfl)⟩
  | document hreads hrefuses =>
    obtain ⟨e, hrewrite, he⟩ := hrefuses.outcome
    exact ⟨_, .refused hreads (Prod.ext hrewrite rfl) he⟩
  | output hrewrites hasked hwrite hnull =>
    exact ⟨_, .unwritten hrewrites hasked hwrite
      ((Files.isWrongValue_of_write hwrite).trans hnull)⟩

theorem Rewrites.halves {l : Logger} {w₁ : Workspace} (h : Rewrites libs a w l none w₁)
    (hwrite : Arguments.given a.output = true →
      ∃ files, w₁.files.write (.ofText (a.output.getD "")) [] = .ok files) :
    Escapes libs a w := by
  obtain ⟨hreads, hrewrite⟩ := h
  exact .halves hreads (rewrite_leaves_iff.mp (congrArg Prod.fst hrewrite))
    (congrArg (Workspace.showAll l · _) (congrArg Prod.snd hrewrite).symm) hwrite

theorem Escapes.runs (ha : a.Chosen) (h : Escapes libs a w) :
    ∃ e w', Runs libs a w (.error e) w' := by
  cases h with
  | settings hpath hescapes =>
    obtain ⟨e, hsettings, he⟩ := Settings.setUp_escapes_iff.mpr ⟨_, hpath, hescapes⟩
    exact ⟨_, _, .settingsEscape (Prod.ext hsettings rfl) he⟩
  | log hsettings hlog =>
    have hsettled := Settings.settled_of_setUp ha hsettings
    obtain ⟨e, he⟩ := (Logger.ofSettings_error_iff hsettled).mpr hlog
    exact ⟨_, _, .loggerEscape (Prod.ext hsettings rfl) he⟩
  | document hreads hbreaks =>
    obtain ⟨e, hrewrite, he⟩ := hbreaks.outcome
    exact ⟨_, _, .documentEscape hreads (Prod.ext hrewrite rfl) he⟩
  | halves hreads hleaves hrewritten hwrite =>
    subst hrewritten
    have hrewrites := Rewrites.intro hreads (Prod.ext hleaves.outcome rfl)
    cases hasked : Arguments.given a.output with
    | false => exact ⟨_, _, .unprinted hrewrites hasked⟩
    | true =>
      obtain ⟨files, hfiles⟩ := hwrite hasked
      exact ⟨_, _, .emptied hrewrites hasked hfiles⟩
  | @output l result w₁ hrewrites hasked hnull =>
    cases hwrite : w₁.files.write (.ofText (a.output.getD "")) (bytesOf result) with
    | error f =>
      exact ⟨_, _, .outputEscape hrewrites hasked hwrite
        ((Files.isWrongValue_of_write hwrite).trans hnull)⟩
    | ok files =>
      have hlocate : w₁.files.locate _ = _ := Files.locate_null_iff.mpr hnull
      cases hlocate.symm.trans (Files.change_eq_ok hwrite).1

end Run

theorem runCommand_of_read {args : List String} {a : Arguments} (libs : Libraries)
    (hread : Arguments.read args = .ok a) (hcheck : a.check = .ok ()) (w : Workspace) :
    runCommand libs args w = run libs a w := by
  unfold runCommand
  rw [hread, ok_bind, hcheck]
  rfl

end LineJoin
