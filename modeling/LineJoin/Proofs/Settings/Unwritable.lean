import LineJoin.Settings.Save

/-!
# Values that cannot be saved

The parts of a value are its items, its keys and the values under them, and a value occurs in
another if it is that value or occurs in one of its parts. Objects, rules and mappings that cannot be
changed have no form in a document. A value can be written exactly if nothing without a form occurs
in it at any depth, and whether it can is settled before the files are touched.
-/

namespace LineJoin

namespace Value

/-- The values right inside a value. -/
def parts : Value → List Value
  | list items | tuple items | set items => items
  | dict entries | frozen entries => entries.flatMap fun e => [e.1, e.2]
  | object fields => fields.map (·.2)
  | shared _ v => [v]
  | null | bool _ | int _ | float _ | str _ | bytes _ | rule _ | day _ | moment _ => []

/-- `Occurs u v`: the value `u` is `v` or stands inside of it, at any depth. -/
inductive Occurs (u : Value) : Value → Prop where
  | here : Occurs u u
  | inside {v part : Value} (hpart : part ∈ v.parts) (h : Occurs u part) : Occurs u v

/-- A value that has no form in a document. -/
inductive Formless : Value → Prop where
  | frozen (entries : Entries) : Formless (.frozen entries)
  | object (fields : List (String × Value)) : Formless (.object fields)
  | rule (r : Rule) : Formless (.rule r)

theorem sizeOf_part_lt {v part : Value} (h : part ∈ v.parts) : sizeOf part < sizeOf v := by
  cases v with
  | list items | tuple items | set items =>
    have hlt : sizeOf part < sizeOf items := List.sizeOf_lt_of_mem h
    simp only [list.sizeOf_spec, tuple.sizeOf_spec, set.sizeOf_spec]
    omega
  | dict entries | frozen entries =>
    obtain ⟨⟨key, w⟩, he, hpart⟩ := List.mem_flatMap.mp h
    have hlt := List.sizeOf_lt_of_mem he
    simp only [Prod.mk.sizeOf_spec] at hlt
    simp only [dict.sizeOf_spec, frozen.sizeOf_spec]
    obtain rfl | rfl : part = key ∨ part = w := by simpa using hpart
    all_goals omega
  | object fields =>
    obtain ⟨⟨name, w⟩, hf, rfl⟩ := List.mem_map.mp h
    have hlt := List.sizeOf_lt_of_mem hf
    simp only [Prod.mk.sizeOf_spec] at hlt
    simp only [object.sizeOf_spec]
    omega
  | shared id w =>
    obtain rfl := List.mem_singleton.mp h
    simp only [shared.sizeOf_spec]
    omega
  | _ => simp only [parts, List.not_mem_nil] at h

theorem induction_parts {motive : Value → Prop}
    (h : ∀ v : Value, (∀ part ∈ v.parts, motive part) → motive v) (v : Value) : motive v :=
  h v fun part _ => induction_parts h part
termination_by sizeOf v
decreasing_by exact sizeOf_part_lt ‹_›

end Value

namespace Yaml
open Value

theorem unwritableItem?_eq (items : List Value) :
    unwritableItem? items = items.findSome? unwritable? := by
  induction items with
  | nil => rfl
  | cons v rest ih => rw [unwritableItem?, List.findSome?_cons, ih]; cases unwritable? v <;> rfl

theorem unwritableEntry?_eq (entries : Entries) :
    unwritableEntry? entries = (entries.flatMap fun e => [e.1, e.2]).findSome? unwritable? := by
  induction entries with
  | nil => rfl
  | cons e rest ih =>
    rw [List.flatMap_cons, List.findSome?_append, List.findSome?_cons, List.findSome?_singleton,
      unwritableEntry?, unwritableIn?, ih]
    cases unwritable? e.1 <;> cases unwritable? e.2 <;> rfl

/-- A value with a form is searched through its parts, in their order. -/
theorem unwritable?_of_form {v : Value} (h : ¬Formless v) :
    unwritable? v = v.parts.findSome? unwritable? := by
  cases v with
  | list items | tuple items | set items => rw [unwritable?, unwritableItem?_eq, parts]
  | dict entries => rw [unwritable?, unwritableEntry?_eq, parts]
  | shared id w => rw [unwritable?, parts, List.findSome?_singleton]
  | frozen entries => exact absurd (.frozen entries) h
  | object fields => exact absurd (.object fields) h
  | rule r => exact absurd (.rule r) h
  | _ => rfl

example : unwritable? (.dict [(.tuple [.null, .bytes [0]], .set [.str "a"])]) = none := rfl

theorem unwritable?_of_formless {v : Value} (h : Formless v) : unwritable? v = some v := by
  cases h <;> rfl

/-- What is found is inside and has no form. -/
theorem occurs_of_unwritable? {v u : Value} (h : unwritable? v = some u) :
    Occurs u v ∧ Formless u := by
  induction v using induction_parts with
  | h v ih =>
    by_cases hform : Formless v
    · obtain rfl : v = u := Option.some.inj ((unwritable?_of_formless hform).symm.trans h)
      exact ⟨.here, hform⟩
    · rw [unwritable?_of_form hform] at h
      obtain ⟨part, hpart, hfound⟩ := List.exists_of_findSome?_eq_some h
      have hin := ih part hpart hfound
      exact ⟨.inside hpart hin.1, hin.2⟩

/-- Nothing without a form escapes the search. -/
theorem unwritable?_ne_none {v u : Value} (h : Occurs u v) (hu : Formless u) :
    unwritable? v ≠ none := by
  induction h with
  | here => simp [unwritable?_of_formless hu]
  | @inside v part hpart _ ih =>
    by_cases hform : Formless v
    · simp [unwritable?_of_formless hform]
    · rw [unwritable?_of_form hform]
      exact fun hnone => ih (List.findSome?_eq_none_iff.mp hnone part hpart)

theorem write_error_iff {v : Value} {u : Unwritable} :
    write v = .error u ↔ unwritable? v = some u.value := by
  unfold write
  cases unwritable? v with
  | none => simp
  | some w => cases u; simp

end Yaml

namespace Settings
open Value Yaml

theorem saveText_ne_unwritable (files : Files) (p : Path) (makesDirectories : Bool) (text : String)
    (u : Unwritable) : (saveText files p makesDirectories text).2 ≠ .error (.unwritable u) := by
  simp only [saveText]
  split
  · simp
  · split <;> simp

theorem save_unwritable_iff {files : Files} {p : Path} {makesDirectories : Bool} {v : Value}
    {u : Unwritable} :
    (save files p makesDirectories v).2 = .error (.unwritable u) ↔ write v = .error u := by
  unfold save
  cases write v with
  | error w => simp
  | ok text => simp [saveText_ne_unwritable]

theorem save_of_write_error {files : Files} {p : Path} {makesDirectories : Bool} {v : Value}
    {u : Unwritable} (h : write v = .error u) :
    save files p makesDirectories v = (files, .error (.unwritable u)) := by
  rw [save, h]

/-- Saving fails to write a value as a document exactly if something without a form occurs in it. The
fault names such a value, and the files and directories are those from before. -/
theorem save_unwritable (files : Files) (p : Path) (makesDirectories : Bool) (v : Value) :
    ((∃ u, (save files p makesDirectories v).2 = .error (.unwritable u)) ↔
      ∃ u, Occurs u v ∧ Formless u) ∧
    ∀ u, (save files p makesDirectories v).2 = .error (.unwritable u) →
      (save files p makesDirectories v).1 = files ∧ Occurs u.value v ∧ Formless u.value := by
  refine ⟨⟨?_, ?_⟩, ?_⟩
  · rintro ⟨u, h⟩
    exact ⟨u.value, occurs_of_unwritable? (write_error_iff.mp (save_unwritable_iff.mp h))⟩
  · rintro ⟨u, hin, hu⟩
    obtain ⟨w, hw⟩ := Option.ne_none_iff_exists'.mp (unwritable?_ne_none hin hu)
    exact ⟨⟨w⟩, save_unwritable_iff.mpr (write_error_iff.mpr hw)⟩
  · intro u h
    have hwrite := save_unwritable_iff.mp h
    exact ⟨congrArg Prod.fst (save_of_write_error hwrite),
      occurs_of_unwritable? (write_error_iff.mp hwrite)⟩

/-- A rule in a key is found behind texts, bytes and sets, and no directory is made for the file. -/
theorem save_unwritable_key :
    (∃ u, (save [(["old"], .file [97])] (.ofText "new/settings.yml") true
      (.dict [(.str "a", .set [.bytes [0]]), (.tuple [.int 1, .rule ⟨some "a", none⟩], .null)])).2 =
        .error (.unwritable u)) ∧
    (save [(["old"], .file [97])] (.ofText "new/settings.yml") true
      (.dict [(.str "a", .set [.bytes [0]]), (.tuple [.int 1, .rule ⟨some "a", none⟩], .null)])).1 =
        [(["old"], .file [97])] := by
  have hkey : Occurs (.rule ⟨some "a", none⟩) (.tuple [.int 1, .rule ⟨some "a", none⟩]) :=
    .inside (by simp [parts]) .here
  exact ⟨(save_unwritable _ _ _ _).1.mpr ⟨_, .inside (by simp [parts]) hkey, .rule _⟩,
    ((save_unwritable _ _ _ _).2 ⟨.rule ⟨some "a", none⟩⟩ rfl).1⟩

end Settings

end LineJoin
