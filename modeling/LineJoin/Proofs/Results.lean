import LineJoin.Log

/-!
# Results

What steps one after the other give. Computations that keep records add them to those from before and
do not look at these, so their results can be followed without records.
-/

namespace LineJoin

theorem ok_of_bind {ε α β : Type} {x : Except ε α} {f : α → Except ε β} {b : β}
    (h : x >>= f = .ok b) : ∃ a, x = .ok a ∧ f a = .ok b := by
  cases x with
  | error e => cases h
  | ok a => exact ⟨a, rfl, h⟩

theorem ok_of_mapError {ε ε' α : Type} {x : Except ε α} {g : ε → ε'} {a : α}
    (h : x.mapError g = .ok a) : x = .ok a := by
  cases x with
  | error e => cases h
  | ok b => exact congrArg _ (Except.ok.inj h)

theorem error_of_bind {ε α β : Type} {x : Except ε α} {f : α → Except ε β} {e : ε}
    (h : x >>= f = .error e) : x = .error e ∨ ∃ a, x = .ok a ∧ f a = .error e := by
  cases x with
  | error e' => exact .inl (congrArg _ (Except.error.inj h))
  | ok a => exact .inr ⟨a, rfl, h⟩

theorem error_of_mapError {ε ε' α : Type} {x : Except ε α} {g : ε → ε'} {e : ε'}
    (h : x.mapError g = .error e) : ∃ e', x = .error e' ∧ g e' = e := by
  cases x with
  | error e' => exact ⟨e', rfl, Except.error.inj h⟩
  | ok a => cases h

section Steps

variable {ε ε' α β : Type}

@[simp]
theorem ok_bind (a : α) (f : α → Except ε β) : (Except.ok a >>= f) = f a := rfl

@[simp]
theorem error_bind (e : ε) (f : α → Except ε β) : (Except.error e >>= f) = .error e := rfl

@[simp]
theorem mapError_ok (g : ε → ε') (a : α) : (Except.ok a).mapError g = .ok a := rfl

@[simp]
theorem mapError_error (g : ε → ε') (e : ε) :
    (Except.error e : Except ε α).mapError g = .error (g e) := rfl

end Steps

/-- What is done after a computation that keeps a state and can fail. -/
theorem run_bind {ε σ α β : Type} (x : ExceptT ε (StateM σ) α) (f : α → ExceptT ε (StateM σ) β)
    (s : σ) : (x >>= f).run.run s = match x.run.run s with
      | (.ok a, s) => (f a).run.run s
      | (.error e, s) => (.error e, s) := by
  rw [ExceptT.run_bind, StateT.run_bind]
  change (match x.run.run s with | (r, s) => _) = _
  obtain ⟨_ | _, _⟩ := x.run.run s <;> rfl

namespace Logged

variable {ε ε' α β : Type} {x : Logged ε α} {f : α → Logged ε β}

/-- A computation that adds records to those kept already, whatever these are. -/
def Appends (x : Logged ε α) : Prop :=
  ∀ records, x.run.run records = (x.outcome.1, records ++ x.outcome.2)

theorem appends_pure (a : α) : (pure a : Logged ε α).Appends := fun records =>
  congrArg (Except.ok a, ·) (List.append_nil records).symm

theorem appends_ofExcept (e : Except ε α) : (ofExcept e).Appends := fun records =>
  congrArg (e, ·) (List.append_nil records).symm

theorem appends_throw (e : ε) : (throw e : Logged ε α).Appends := appends_ofExcept (.error e)

theorem appends_log (level : Level) (channel : Channel) (message : String) :
    (log level channel message : Logged ε Unit).Appends := fun _ => rfl

theorem Appends.bind (hx : x.Appends) (hf : ∀ a, (f a).Appends) : (x >>= f).Appends := by
  intro records
  rw [outcome, run_bind, run_bind, hx records, hx []]
  cases hresult : x.outcome.1 with
  | error e => rfl
  | ok a =>
    dsimp only
    rw [hf a (records ++ x.outcome.2), hf a ([] ++ x.outcome.2), List.nil_append,
      List.append_assoc]

theorem run_mapError (g : ε → ε') (x : Logged ε α) (records : List Record) :
    (x.mapError g).run.run records =
      ((x.run.run records).1.mapError g, (x.run.run records).2) := rfl

theorem Appends.mapError (hx : x.Appends) (g : ε → ε') : (x.mapError g).Appends := by
  intro records
  rw [outcome, run_mapError, run_mapError, hx records]
  rfl

/-- What one computation after another gives. -/
theorem outcome_bind (x : Logged ε α) (hf : ∀ a, (f a).Appends) :
    (x >>= f).outcome.1 = x.outcome.1 >>= fun a => (f a).outcome.1 := by
  rw [outcome, run_bind]
  change _ = (x.run.run []).1 >>= _
  obtain ⟨_ | a, more⟩ := x.run.run []
  · rfl
  · change ((f a).run.run more).1 = _
    rw [hf a more]
    rfl

section Records

variable {records : List Record}

/-- What follows a computation with its records, and adds its own. -/
theorem outcome_bind_of_ok {a : α} (hx : x.outcome = (.ok a, records)) (hf : (f a).Appends) :
    (x >>= f).outcome = ((f a).outcome.1, records ++ (f a).outcome.2) := by
  rw [outcome] at hx
  rw [outcome, run_bind, hx]
  exact hf records

theorem outcome_bind_of_error {e : ε} (hx : x.outcome = (.error e, records)) :
    (x >>= f).outcome = (.error e, records) := by
  rw [outcome] at hx
  rw [outcome, run_bind, hx]

theorem outcome_bind_pure (x : Logged ε α) (g : α → β) :
    (x >>= fun a => pure (g a)).outcome = (x.outcome.1.map g, x.outcome.2) := by
  rw [outcome, run_bind, outcome]
  obtain ⟨_ | _, _⟩ := x.run.run [] <;> rfl

end Records

/-- What follows a computation that keeps no records. -/
theorem outcome_ofExcept_bind (e : Except ε α) (f : α → Logged ε β) :
    (ofExcept e >>= f).outcome.1 = e >>= fun a => (f a).outcome.1 := by
  cases e <;> rfl

theorem outcome_lift_bind (m : StateM (List Record) α) (f : α → Logged ε β) :
    (ExceptT.lift m >>= f : Logged ε β).outcome.1 =
      ((f (m.run []).1).run.run (m.run []).2).1 := rfl

theorem outcome_mapError (g : ε → ε') (x : Logged ε α) :
    (x.mapError g).outcome.1 = x.outcome.1.mapError g := rfl

end Logged

end LineJoin
