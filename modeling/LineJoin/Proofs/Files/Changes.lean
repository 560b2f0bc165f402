import LineJoin.Files.Basic
import LineJoin.Proofs.Results

/-!
# Changes of files

A path leads to one place, whatever files there are. Writing changes the entry of that place only, and
what has been written can be read again.
-/

namespace LineJoin

namespace Path

/-- The place that parts lead to from the beginning of a path. -/
def placeOf (root : String) (parts : List String) : Location :=
  parts.foldl Files.step (if root = "" then [] else ["/"])

/-- The place that a path leads to if it leads anywhere. -/
def place (p : Path) : Location := placeOf p.root p.parts

end Path

namespace Files

variable {fs fs' : Files} {l m : Location} {e : Entry} {p : Path} {shown : String} {data : Bytes}
  {parts : List String}

theorem lookup_put (l : Location) (e : Entry) (fs : Files) (m : Location) :
    (put l e fs).lookup m = if m = l then some e else fs.lookup m := by
  induction fs with
  | nil =>
    rw [put, List.lookup_cons]
    by_cases h : m = l
    · rw [if_pos h, beq_iff_eq.mpr h]
    · rw [if_neg h, beq_eq_false_iff_ne.mpr h]
  | cons f rest ih =>
    obtain ⟨n, old⟩ := f
    rw [put]
    by_cases hn : n = l
    · rw [if_pos hn, List.lookup_cons, List.lookup_cons, hn]
      by_cases h : m = l
      · rw [if_pos h, beq_iff_eq.mpr h]
      · rw [if_neg h, beq_eq_false_iff_ne.mpr h]
    · rw [if_neg hn, List.lookup_cons, List.lookup_cons, ih]
      by_cases h : m = n
      · have hml : m ≠ l := fun hm => hn (h.symm.trans hm)
        simp only [beq_iff_eq.mpr h, if_neg hml]
      · rw [beq_eq_false_iff_ne.mpr h]

/-- Putting an entry at a place that is not fixed changes that place only. -/
theorem entry?_put (hl : isFixed l = false) (e : Entry) (fs : Files) (m : Location) :
    entry? (put l e fs) m = if m = l then some e else fs.entry? m := by
  unfold Files.entry?
  rw [lookup_put]
  by_cases hm : isFixed m
  · rw [if_pos hm, if_pos hm, if_neg]
    rintro rfl
    rw [hl] at hm
    cases hm
  · rw [if_neg hm, if_neg hm]

theorem not_fixed_of_ne (h : fs.entry? l ≠ some .directory) : isFixed l = false := by
  unfold Files.entry? at h
  split at h
  · exact absurd rfl h
  · rename_i hl
    exact Bool.eq_false_iff.mpr hl

theorem follow_eq_ok (h : fs.follow l parts = .ok m) : m = parts.foldl step l := by
  induction parts generalizing l with
  | nil =>
    cases h
    rfl
  | cons part rest ih =>
    rw [follow] at h
    split at h
    · split at h
      · cases h
      · exact ih h
    · cases h
    · cases h

/-- Where files lead to a place, so do files with the same directories and more. -/
theorem follow_mono (hdir : ∀ m, fs.entry? m = some .directory → fs'.entry? m = some .directory)
    (h : fs.follow l parts = .ok m) : fs'.follow l parts = .ok m := by
  induction parts generalizing l with
  | nil => exact h
  | cons part rest ih =>
    rw [follow] at h ⊢
    split at h
    · rename_i hl
      rw [hdir l hl]
      dsimp only
      split at h
      · cases h
      · rw [if_neg ‹_›]
        exact ih h
    · cases h
    · cases h

theorem locate_eq_ok (h : fs.locate p = .ok l) : l = p.place := by
  unfold locate at h
  split at h
  · cases h
  · split at h
    · cases h
    · exact follow_eq_ok h

theorem locate_mono (hdir : ∀ m, fs.entry? m = some .directory → fs'.entry? m = some .directory)
    (h : fs.locate p = .ok m) : fs'.locate p = .ok m := by
  unfold locate at h ⊢
  split at h
  · cases h
  · split at h
    · cases h
    · rw [if_neg ‹_›, if_neg ‹_›]
      exact follow_mono hdir h

/-! ## Null characters -/

theorem follow_ne_null (fs : Files) (l : Location) (parts : List String) :
    fs.follow l parts ≠ .error .nullInPath := by
  induction parts generalizing l with
  | nil => exact nofun
  | cons part rest ih =>
    rw [follow]
    split
    · split
      · exact nofun
      · exact ih _
    · exact nofun
    · exact nofun

theorem locate_null_iff : fs.locate p = .error .nullInPath ↔ p.hasNull = true := by
  rw [locate]
  cases p.hasNull with
  | true => exact ⟨fun _ => rfl, fun _ => rfl⟩
  | false =>
    refine ⟨fun h => ?_, nofun⟩
    rw [if_neg Bool.false_ne_true] at h
    split at h
    · cases h
    · exact absurd h (follow_ne_null _ _ _)

/-! ## Reading -/

/-- What a path leads to is at its place. -/
theorem entry?_of_find? (h : fs.find? p = .ok e) : fs.entry? p.place = some e := by
  obtain ⟨l, hl, h⟩ := ok_of_bind h
  cases locate_eq_ok hl
  split at h
  · cases h
    assumption
  · cases h

theorem find?_of_entry? (hlocate : fs.locate p = .ok l) (hentry : fs.entry? l = some e) :
    fs.find? p = .ok e := by
  rw [find?, hlocate, ok_bind, hentry]
  rfl

theorem has_of_find? (h : fs.find? p = .ok e) : fs.has p = .ok true := by
  rw [has, h]

theorem has_longName (h : fs.find? p = .error .nameTooLong) :
    fs.has p = .error ⟨.nameTooLong, p.text⟩ := by
  rw [has, h]

theorem has_nowhere {problem : FileProblem} (h : fs.find? p = .error problem)
    (hproblem : problem ≠ .nameTooLong) : fs.has p = .ok false := by
  rw [has, h]
  cases problem <;> first | rfl | exact absurd rfl hproblem

theorem read_directory (h : fs.find? p = .ok .directory) (shown : String) :
    fs.read p shown = .error ⟨.isDirectory, shown⟩ := by
  rw [read, h]

theorem read_file (h : fs.find? p = .ok (.file data)) (shown : String) :
    fs.read p shown = .ok data := by
  rw [read, h]

theorem find?_of_read (h : fs.read p shown = .ok data) : fs.find? p = .ok (.file data) := by
  rw [read] at h
  split at h
  · cases h
    assumption
  · cases h
  · cases h

theorem has_of_read (h : fs.read p shown = .ok data) : fs.has p = .ok true :=
  has_of_find? (find?_of_read h)

theorem entry?_of_read (h : fs.read p shown = .ok data) :
    fs.entry? p.place = some (.file data) := entry?_of_find? (find?_of_read h)

/-! ## Changing -/

/-- The content of the file at a place, which is empty if there is none. -/
def contentAt (fs : Files) (l : Location) : Bytes :=
  match fs.entry? l with
  | some (.file data) => data
  | _ => []

/-- What a change of a file comes to. -/
theorem change_eq_ok {f : Bytes → Bytes} (h : fs.change p shown f = .ok fs') :
    fs.locate p = .ok p.place ∧ fs.entry? p.place ≠ some .directory ∧
      fs' = put p.place (.file (f (fs.contentAt p.place))) fs := by
  rw [change] at h
  split at h
  · cases h
  · rename_i l hl
    cases locate_eq_ok hl
    refine ⟨hl, ?_⟩
    rw [contentAt]
    split at h
    · cases h
    · rename_i old hold
      cases h
      rw [hold]
      exact ⟨nofun, rfl⟩
    · rename_i hnone
      cases h
      rw [hnone]
      exact ⟨nofun, rfl⟩

/-- A changed file is found where it was changed. -/
theorem find?_change {f : Bytes → Bytes} (h : fs.change p shown f = .ok fs') :
    fs'.find? p = .ok (.file (f (fs.contentAt p.place))) := by
  obtain ⟨hlocate, hentry, rfl⟩ := change_eq_ok h
  have hput := entry?_put (not_fixed_of_ne hentry) (.file (f (fs.contentAt p.place))) fs
  have hlocate' : (put p.place (.file (f (fs.contentAt p.place))) fs).locate p = .ok p.place := by
    refine locate_mono (fun m hm => ?_) hlocate
    rw [hput, if_neg, hm]
    rintro rfl
    exact hentry hm
  exact find?_of_entry? hlocate' ((hput _).trans (if_pos rfl))

/-- A file cannot be written because of a wrong value exactly where its path has a null character. -/
theorem isWrongValue_of_write {f : FileFault} (h : fs.write p data = .error f) :
    f.isWrongValue = p.hasNull := by
  have hproblem : f.problem = .nullInPath ↔ fs.locate p = .error .nullInPath := by
    rw [write, change] at h
    split at h
    · rename_i e he
      cases h
      rw [he, Except.error.injEq]
    · rename_i l hl
      rw [hl]
      split at h
      · cases h
        exact ⟨nofun, nofun⟩
      · cases h
      · cases h
  rw [FileFault.isWrongValue, Bool.eq_iff_iff, beq_iff_eq, hproblem, locate_null_iff]

theorem read_of_write (h : fs.write p data = .ok fs') (shown : String) :
    fs'.read p shown = .ok data := read_file (find?_change h) shown

end Files

end LineJoin
