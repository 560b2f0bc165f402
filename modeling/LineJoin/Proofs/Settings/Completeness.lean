import LineJoin.Proofs.Settings.Settled
import LineJoin.Proofs.Value.Equality

/-!
# Loaded settings are complete

Whatever is loaded, and whatever the command line lays over it, has a value at every path of the
schema. The value has the type that the schema gives, and the values that are chosen from a list are
in it.
-/

namespace LineJoin.Settings

open Entries Value

/-- Which values have a type. Truth values have the type of truth values only. -/
inductive HasType : ValueType → Value → Prop
  | section (entries : Entries) : HasType .section (.dict entries)
  | bool (b : Bool) : HasType .bool (.bool b)
  | list (items : List Value) : HasType .listOrNull (.list items)
  | null : HasType .listOrNull .null
  | text (s : String) : HasType .text (.str s)
  | int (n : Int) : HasType .number (.int n)
  | float (x : Binary64) : HasType .number (.float x)
  | shared (id : Nat) {t : ValueType} {v : Value} (h : HasType t v) : HasType t (.shared id v)

theorem HasType.of_unshare {t : ValueType} : ∀ {v : Value}, HasType t v.unshare → HasType t v
  | .shared id v, h => .shared id (of_unshare (v := v) h)
  | .null, h | .bool _, h | .int _, h | .float _, h | .str _, h | .bytes _, h | .list _, h
  | .tuple _, h | .set _, h | .dict _, h | .frozen _, h | .object _, h | .rule _, h | .day _, h
  | .moment _, h => h

theorem admits_iff {t : ValueType} {v : Value} : t.admits v = true ↔ HasType t v := by
  constructor
  · intro h
    apply HasType.of_unshare
    unfold ValueType.admits at h
    split at h
    · obtain ⟨entries, hentries⟩ := Option.isSome_iff_exists.mp h
      rw [unshare_of_dict? hentries]
      exact .section entries
    · split at h
      · rename_i b hb
        rw [hb]
        exact .bool b
      · cases h
    · split at h
      · rename_i items hitems
        rw [hitems]
        exact .list items
      · rename_i hnull
        rw [hnull]
        exact .null
      · cases h
    · obtain ⟨s, hs⟩ := Option.isSome_iff_exists.mp h
      rw [unshare_of_text hs]
      exact .text s
    · split at h
      · rename_i n hn
        rw [hn]
        exact .int n
      · rename_i x hx
        rw [hx]
        exact .float x
      · cases h
  · intro h
    induction h with
    | @shared id t v _ ih => cases t <;> exact ih
    | _ => rfl

/-- The keys of a path, which dots separate. -/
def keysOfPath (path : String) : List String := (cutAt '.' path.toList).map String.ofList

/-- The value that keys lead to, one mapping inside the other. -/
def valueBelow? (v : Value) : List String → Option Value
  | [] => some v
  | key :: rest => do valueBelow? (← named? (← v.dict?) key) rest

/-- The value at a path of a configuration. -/
def valueAt? (config : Entries) (path : String) : Option Value :=
  valueBelow? (.dict config) (keysOfPath path)

/-- A value at every path of the schema, of the type that the schema gives, and each choice one of
those that there are. -/
structure Complete (config : Entries) : Prop where
  typed : ∀ e ∈ schema, ∃ v, valueAt? config e.1 = some v ∧ HasType e.2 v
  format : ∃ v, valueAt? config "input.tree_format" = some v ∧ ∃ s ∈ treeFormats, v.text? = some s
  level : ∃ v, valueAt? config "logging.level" = some v ∧ ∃ s ∈ logLevels, v.text? = some s

section Paths

variable {config entries : Entries} {s : String × List (String × Value)}

/-- The paths of the schema are those of the sections and of the keys in them. -/
theorem schema_path : ∀ e ∈ schema,
    (∃ s ∈ sections, keysOfPath e.1 = [s.1] ∧ e.2 = .section) ∨
      ∃ s ∈ sections, ∃ f ∈ s.2, keysOfPath e.1 = [s.1, f.1] ∧
        schema.lookup (s.1 ++ "." ++ f.1) = some e.2 := by
  decide +kernel

theorem valueBelow?_section (h : Formed config) (hs : s ∈ sections) (rest : List String) :
    valueBelow? (.dict config) (s.1 :: rest) = valueBelow? (named config s.1) rest := by
  obtain ⟨v, hv⟩ := h.begins.named? (List.mem_map_of_mem hs)
  rw [named_eq hv]
  simp only [valueBelow?, dict?, Option.bind_eq_bind, Option.bind_some, hv]

/-- What keys lead to is what is looked up, and it fits. -/
theorem valueBelow?_key (h : Formed config) (hs : s ∈ sections) {f : String × Value}
    (hf : f ∈ s.2) :
    valueBelow? (.dict config) [s.1, f.1] = some (valueOf config s.1 f.1) ∧
      Fits (s.1 ++ "." ++ f.1) (valueOf config s.1 f.1) := by
  obtain ⟨entries, hentries, hvalue, hfits⟩ := h.value hs hf
  rw [valueBelow?_section h hs]
  refine ⟨?_, hfits⟩
  simp only [valueBelow?, hentries, hvalue, Option.bind_eq_bind, Option.bind_some]

end Paths

theorem Settled.complete {config : Entries} (h : Settled config) : Complete config where
  typed := by
    intro e he
    rcases schema_path e he with ⟨s, hs, hpath, htype⟩ | ⟨s, hs, f, hf, hpath, htype⟩
    · obtain ⟨entries, hentries, -⟩ := h.sections s hs
      rw [valueAt?, hpath, valueBelow?_section h.toFormed hs, htype]
      exact ⟨_, rfl, admits_iff.mp (Option.isSome_iff_exists.mpr ⟨entries, hentries⟩)⟩
    · obtain ⟨hvalue, hfits⟩ := valueBelow?_key h.toFormed hs hf
      rw [valueAt?, hpath, hvalue]
      exact ⟨_, rfl, admits_iff.mp (hfits _ htype)⟩
  format := by
    obtain ⟨s, hs, hname, f, hf, hkey⟩ : ∃ s ∈ sections, s.1 = "input" ∧ ∃ f ∈ s.2,
      f.1 = "tree_format" := by decide
    have hvalue := (valueBelow?_key h.toFormed hs hf).1
    rw [hname, hkey] at hvalue
    exact ⟨_, hvalue, h.format⟩
  level := by
    obtain ⟨s, hs, hname, f, hf, hkey⟩ : ∃ s ∈ sections, s.1 = "logging" ∧ ∃ f ∈ s.2,
      f.1 = "level" := by decide
    have hvalue := (valueBelow?_key h.toFormed hs hf).1
    rw [hname, hkey] at hvalue
    exact ⟨_, hvalue, h.level⟩

/-- Settings that are loaded from any files are complete, and so are the settings of a run, with what
a command line lays over them. -/
theorem settings_complete :
    (∀ (files : Files) (path : Option Path) (config : Entries),
      (load files path).outcome.1 = .ok config → Complete config) ∧
    ∀ (files : Files) (args : List String) (a : Arguments) (config : Entries) (o : Options),
      Arguments.read args = .ok a → (setUp files a).outcome.1 = .ok (config, o) →
        Complete config :=
  ⟨fun _ _ _ h => (load_eq_ok_iff.mp h).settled.complete,
    fun _ _ _ _ _ hread h => (settled_of_setUp (Arguments.chosen_of_read hread) h).complete⟩

/-- Files with settings that change the log level only. -/
def quietFiles : Files :=
  [(["cjk_linebreak.yml"], .file "logging:\n  level: ERROR\n".toUTF8.toList)]

theorem loads_quietFiles : Loads quietFiles (some (.ofText "cjk_linebreak.yml"))
    (putIn defaults "logging" "level" (.str "ERROR")) := by
  have hread : Yaml.read "logging:\n  level: ERROR\n".toList =
      .ok (.dict [(.str "logging", .dict [(.str "level", .str "ERROR")])]) := by
    decide +kernel
  have htext : textOf "logging:\n  level: ERROR\n".toUTF8.toList =
      .ok "logging:\n  level: ERROR\n".toList := by decide +kernel
  have hfile : quietFiles.read (.ofText "cjk_linebreak.yml") "cjk_linebreak.yml" =
      .ok "logging:\n  level: ERROR\n".toUTF8.toList := by decide +kernel
  exact .merged hfile htext (.mapping hread rfl) rfl

theorem settings_complete_mdast :
    (load quietFiles (some (.ofText "cjk_linebreak.yml"))).outcome.1 =
        .ok (putIn defaults "logging" "level" (.str "ERROR")) ∧
      Complete (putIn defaults "logging" "level" (.str "ERROR")) ∧
      ∃ a config, Arguments.read ["--format", "mdast", "in.txt"] = .ok a ∧
        (setUp quietFiles a).outcome.1 = .ok (config, {}) ∧ Complete config := by
  have hload := load_eq_ok_iff.mpr loads_quietFiles
  have hread : Arguments.read ["--format", "mdast", "in.txt"] =
      .ok { treeFormat := some "mdast", filepath := some "in.txt" } := rfl
  have hsetUp : (setUp quietFiles { treeFormat := some "mdast", filepath := some "in.txt" }).outcome.1
      = .ok (_, {}) := setUp_eq_ok_iff.mpr ⟨_, {}, loads_quietFiles, rfl, rfl, rfl⟩
  exact ⟨hload, settings_complete.1 _ _ _ hload, _, _, hread, hsetUp,
    settings_complete.2 _ _ _ _ _ hread hsetUp⟩

end LineJoin.Settings
