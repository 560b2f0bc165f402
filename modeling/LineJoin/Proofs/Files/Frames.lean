import LineJoin.Proofs.Files.Changes

/-!
# What changes of files keep

Files are kept but for some places if every other place has the entry that it had before; a directory
may be made where there was nothing. Changing a file keeps all places but its own, and making the
directories above a path makes them at places above it only.
-/

namespace LineJoin

namespace Path

/-- The places that a path leads through, the last one included. -/
def Through (p : Path) (m : Location) : Prop := ∃ parts, parts <+: p.parts ∧ m = placeOf p.root parts

/-- The places of the directories above a path. -/
def Above (p : Path) (m : Location) : Prop := p.parent.Through m

theorem through_place {p : Path} {m : Location} (h : m = p.place) : p.Through m :=
  ⟨p.parts, List.prefix_refl _, h⟩

theorem Through.of_parent {p : Path} {m : Location} (h : p.parent.Through m) : p.Through m :=
  h.imp fun _ h => ⟨h.1.trans (List.dropLast_prefix _), h.2⟩

end Path

namespace Files

/-- Files that are kept apart from what may be written, and from directories that may be made. -/
def Kept (written made : Location → Prop) (fs fs' : Files) : Prop :=
  ∀ m, ¬written m → fs'.entry? m = fs.entry? m ∨
    made m ∧ fs.entry? m = none ∧ fs'.entry? m = some .directory

section Kept

variable {written written' made made' : Location → Prop} {fs fs₁ fs' : Files} {p : Path}
  {shown : String} {m : Location}

theorem Kept.refl (fs : Files) : Kept written made fs fs := fun _ _ => .inl rfl

theorem Kept.trans (h : Kept written made fs fs₁) (h' : Kept written made fs₁ fs') :
    Kept written made fs fs' := by
  intro m hm
  rcases h m hm with h | ⟨hmade, hnone, hdir⟩ <;> rcases h' m hm with h' | ⟨hmade', hnone', hdir'⟩
  · exact .inl (h'.trans h)
  · exact .inr ⟨hmade', h ▸ hnone', hdir'⟩
  · exact .inr ⟨hmade, hnone, h'.trans hdir⟩
  · cases hdir.symm.trans hnone'

theorem Kept.mono (h : Kept written made fs fs') (hwritten : ∀ m, written m → written' m)
    (hmade : ∀ m, made m → made' m) : Kept written' made' fs fs' := fun m hm =>
  (h m fun hw => hm (hwritten m hw)).imp_right fun h => ⟨hmade m h.1, h.2⟩

/-- A file that is there afterwards was there before, unless it was written. -/
theorem Kept.file {data : Bytes} (h : Kept written made fs fs') (hm : ¬written m)
    (hfile : fs'.entry? m = some (.file data)) : fs.entry? m = some (.file data) := by
  rcases h m hm with h | ⟨-, -, hdir⟩
  · rw [← h, hfile]
  · cases hdir.symm.trans hfile

theorem entry?_change {f : Bytes → Bytes} (h : fs.change p shown f = .ok fs')
    (hm : m ≠ p.place) : fs'.entry? m = fs.entry? m := by
  obtain ⟨-, hentry, rfl⟩ := change_eq_ok h
  rw [entry?_put (not_fixed_of_ne hentry), if_neg hm]

theorem kept_change {f : Bytes → Bytes} (h : fs.change p shown f = .ok fs') :
    Kept (· = p.place) made fs fs' := fun _ hm => .inl (entry?_change h hm)

theorem kept_makeDirectory (h : fs.makeDirectory p = .ok fs') :
    Kept written (· = p.place) fs fs' := by
  obtain ⟨l, hl, h⟩ := ok_of_bind h
  cases locate_eq_ok hl
  split at h
  · cases h
  · rename_i hnone
    cases h
    have hfixed : isFixed p.place = false := not_fixed_of_ne (by rw [hnone]; exact nofun)
    intro m _
    rw [entry?_put hfixed]
    by_cases hm : m = p.place
    · exact .inr ⟨hm, hm ▸ hnone, if_pos hm⟩
    · exact .inl (if_neg hm)

theorem kept_ensureDirectory (h : fs.ensureDirectory p = .ok fs') :
    Kept written (· = p.place) fs fs' := by
  unfold ensureDirectory at h
  split at h
  · rename_i hmake
    cases h
    exact kept_makeDirectory hmake
  · cases h
  · split at h
    · cases h
      exact .refl fs
    · cases h

theorem kept_ensureDirectories (fuel : Nat) (fs : Files) (p : Path) :
    Kept written p.Through fs (fs.ensureDirectories fuel p).1 := by
  induction fuel generalizing fs p with
  | zero => exact .refl fs
  | succ fuel ih =>
    have hensure {fs fs' : Files} (h : fs.ensureDirectory p = .ok fs') :
        Kept written p.Through fs fs' :=
      (kept_ensureDirectory h).mono (fun _ h => h) fun _ => Path.through_place
    -- What is made for the parent is on the way to the path itself.
    have hparent := (ih fs p.parent).mono (fun _ h => h) fun _ => Path.Through.of_parent
    rw [ensureDirectories]
    split
    · rename_i h
      exact hensure h
    · split
      · exact .refl fs
      · split
        · rename_i h
          rw [h] at hparent
          exact hparent
        · rename_i h
          rw [h] at hparent
          split
          · rename_i h'
            exact hparent.trans (hensure h')
          · exact hparent
    · exact .refl fs

end Kept

end Files

end LineJoin
