import LineJoin.Arguments.Reader
import LineJoin.Proofs.Results

/-!
# What reading arguments keeps

What holds without arguments and is kept by every switch and by the input file holds of whatever is
read. So a log level or a format that is asked for is one of those that can be chosen.
-/

namespace LineJoin.Arguments

section Run

variable {P : Arguments → Prop}

theorem takeWords_keeps
    (hfile : ∀ a v, P a → P { a with filepath := some v })
    (happly : ∀ a s values b, P a → apply a s values = .ok b → P b)
    {p q : Progress} {skip : Nat} {afterInput : Bool} {ws : List Word} (h : P p.arguments)
    (hrun : takeWords p skip afterInput ws = .ok q) : P q.arguments := by
  induction ws generalizing p skip afterInput with
  | nil =>
    cases hrun
    exact h
  | cons word rest ih =>
    cases skip with
    | succ n => exact ih h hrun
    | zero =>
      cases word with
      | value v =>
        refine ih ?_ hrun
        unfold takeValue
        split
        · exact h
        · exact hfile _ _ h
      | unknown text => exact ih (p := { p with extras := p.extras ++ [text] }) h hrun
      | separator =>
        refine ih ?_ hrun
        unfold takeSeparator
        split <;> exact h
      | helpWith value =>
        obtain ⟨-, -, hrun⟩ := ok_of_bind hrun
        exact ih h hrun
      | switch s joined =>
        cases joined with
        | none =>
          obtain ⟨values, -, hrun⟩ := ok_of_bind hrun
          obtain ⟨a, ha, hrun⟩ := ok_of_bind hrun
          exact ih (happly _ _ _ _ h ha) hrun
        | some joined =>
          obtain ⟨values, -, hrun⟩ := ok_of_bind hrun
          obtain ⟨a, ha, hrun⟩ := ok_of_bind hrun
          exact ih (happly _ _ _ _ h ha) hrun

/-- What every switch keeps holds of the arguments that are read. -/
theorem read_keeps (hnone : P {}) (hfile : ∀ a v, P a → P { a with filepath := some v })
    (happly : ∀ a s values b, P a → apply a s values = .ok b → P b) {args : List String}
    {a : Arguments} (hread : read args = .ok a) : P a := by
  obtain ⟨ws, -, hread⟩ := ok_of_bind hread
  obtain ⟨p, hp, hread⟩ := ok_of_bind hread
  have hkept : P p.arguments := takeWords_keeps hfile happly hnone hp
  split at hread
  · cases hread
    exact hkept
  · cases hread

end Run

/-- What is chosen from a list is in it. -/
structure Chosen (a : Arguments) : Prop where
  level : ∀ s, a.logLevel = some s → s ∈ Settings.logLevels
  format : ∀ s, a.treeFormat = some s → s ∈ Settings.treeFormats

theorem checkChoice_ok {s : Switch} {value : String} {choices : List String} {u : Unit}
    (hs : s.choices? = some choices) (h : checkChoice s value = .ok u) : value ∈ choices := by
  rw [checkChoice, hs] at h
  dsimp only at h
  split at h
  · exact List.contains_iff_mem.mp ‹_›
  · cases h

theorem Chosen.apply {a b : Arguments} {s : Switch} {values : List String} (h : Chosen a)
    (hb : apply a s values = .ok b) : Chosen b := by
  unfold Arguments.apply at hb
  split at hb
  case h_3 v =>
    obtain ⟨_, hcheck, hb⟩ := ok_of_bind hb
    cases hb
    refine ⟨fun t ht => ?_, h.format⟩
    cases ht
    exact checkChoice_ok rfl hcheck
  case h_6 v =>
    obtain ⟨_, hcheck, hb⟩ := ok_of_bind hb
    cases hb
    refine ⟨h.level, fun t ht => ?_⟩
    cases ht
    exact checkChoice_ok rfl hcheck
  all_goals cases hb
  all_goals exact ⟨h.level, h.format⟩

theorem chosen_of_read {args : List String} {a : Arguments} (h : read args = .ok a) : Chosen a :=
  read_keeps ⟨fun _ h => (nomatch h), fun _ h => (nomatch h)⟩ (fun _ _ h => ⟨h.level, h.format⟩)
    (fun _ _ _ _ h hb => h.apply hb) h

end LineJoin.Arguments
