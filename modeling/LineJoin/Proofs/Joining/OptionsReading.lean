import LineJoin.Joining.Options
import LineJoin.Proofs.Results
import LineJoin.Proofs.Value.Plain

/-!
# Reading options

Reading options does not look at the records that are kept already, nor at the marks of shared
objects. The section that is made from options gives these options again, as far as patterns tell
them apart.
-/

namespace LineJoin.Options

open Logged

section Records

variable {key : String} {index : Nat}

theorem appends_warn (message : String) : (warn message).Appends := appends_log _ _ _

theorem appends_readSides (entries : Entries) (r : Rule) :
    (readSides key index entries r).Appends := by
  induction entries generalizing r with
  | nil => exact appends_pure r
  | cons e rest ih =>
    obtain ⟨name, fragment⟩ := e
    unfold readSides
    split
    · exact (appends_warn _).bind fun _ => ih r
    · split
      · exact ih _
      · exact ih _
      · exact appends_throw _

theorem appends_readRule (item : Value) : (readRule key index item).Appends := by
  unfold readRule
  split
  · exact appends_pure _
  · split
    · exact appends_readSides _ _
    · exact appends_throw _

theorem appends_readItems (items : List Value) : (readItems key index items).Appends := by
  induction items generalizing index with
  | nil => exact appends_pure []
  | cons item rest ih =>
    exact (appends_readRule item).bind fun r => ih.bind fun rs => appends_pure _

theorem appends_readRules (value : Value) : (readRules key value).Appends := by
  unfold readRules
  split
  · exact appends_pure []
  · exact appends_readItems _
  · exact appends_readItems _
  · exact appends_throw _

theorem appends_readEntries (entries : Entries) (o : Options) :
    (readEntries entries o).Appends := by
  induction entries generalizing o with
  | nil => exact appends_pure o
  | cons e rest ih =>
    obtain ⟨key, value⟩ := e
    unfold readEntries
    split
    · exact (appends_warn _).bind fun _ => ih o
    · split
      · exact (appends_ofExcept _).bind fun o => ih o
      · split
        · exact (appends_readRules value).bind fun rules => ih _
        · exact (appends_warn _).bind fun _ => ih o

theorem appends_ofValue (data : Value) : (ofValue data).Appends := by
  unfold ofValue
  split
  · exact appends_pure _
  · split
    · exact appends_readEntries _ _
    · exact appends_throw _

end Records

/-! ## Without marks -/

section Plain

open Value

variable {key : String} {index : Nat}

theorem outcome_warn_bind {α : Type} (message : String) {f : Unit → Logged OptionsError α}
    (hf : ∀ a, (f a).Appends) : (warn message >>= f).outcome.1 = (f ()).outcome.1 :=
  outcome_bind _ hf

theorem readSides_plain (entries : Entries) (r : Rule) :
    (readSides key index (plainEntries entries) r).outcome.1 =
      (readSides key index entries r).outcome.1 := by
  induction entries generalizing r with
  | nil => rfl
  | cons e rest ih =>
    obtain ⟨name, fragment⟩ := e
    obtain ⟨u, hu, hplain, hmark⟩ := fragment.exists_unmarked
    rw [plainEntries, plainEntry, readSides, readSides, text?_plain]
    cases name.text?.bind fun n => (sideNamed? n).map fun s => (n, s) with
    | none =>
      dsimp only
      rw [outcome_warn_bind _ fun _ => appends_readSides _ _,
        outcome_warn_bind _ fun _ => appends_readSides _ _, ih]
    | some side =>
      dsimp only
      rw [unshare_plain, hplain, hu]
      cases u with
      | null => exact ih _
      | str s => exact ih _
      | shared id v => exact absurd rfl (hmark id v)
      | _ => rfl

theorem readRule_plain (item : Value) :
    (readRule key index item.plain).outcome.1 = (readRule key index item).outcome.1 := by
  obtain ⟨u, hu, hplain, hmark⟩ := item.exists_unmarked
  rw [readRule, readRule, unshare_plain, hplain, hu]
  cases u with
  | dict entries => exact readSides_plain entries {}
  | frozen entries => exact readSides_plain entries {}
  | shared id v => exact absurd rfl (hmark id v)
  | _ => rfl

theorem readItems_plain (items : List Value) :
    (readItems key index (plainAll items)).outcome.1 = (readItems key index items).outcome.1 := by
  induction items generalizing index with
  | nil => rfl
  | cons item rest ih =>
    have hrest {items : List Value} (r : Rule) :
        (readItems key (index + 1) items >>= fun rs => pure (r :: rs) :
          Logged OptionsError (List Rule)).Appends :=
      (appends_readItems items).bind fun _ => appends_pure _
    rw [plainAll, readItems, readItems, outcome_bind _ hrest, outcome_bind _ hrest,
      readRule_plain]
    refine congrArg _ (funext fun r => ?_)
    rw [outcome_bind _ fun _ => appends_pure _, outcome_bind _ fun _ => appends_pure _, ih]

theorem readRules_plain (value : Value) :
    (readRules key value.plain).outcome.1 = (readRules key value).outcome.1 := by
  obtain ⟨u, hu, hplain, hmark⟩ := value.exists_unmarked
  rw [readRules, readRules, unshare_plain, hplain, hu]
  cases u with
  | list items => exact readItems_plain items
  | tuple items => exact readItems_plain items
  | shared id v => exact absurd rfl (hmark id v)
  | _ => rfl

theorem readFlag_plain (name : String) (flag : Flag) (value : Value) (o : Options) :
    readFlag name flag value.plain o = readFlag name flag value o := by
  obtain ⟨u, hu, hplain, hmark⟩ := value.exists_unmarked
  rw [readFlag, readFlag, unshare_plain, hplain, hu]
  cases u with
  | shared id v => exact absurd rfl (hmark id v)
  | _ => rfl

theorem readEntries_plain (entries : Entries) (o : Options) :
    (readEntries (plainEntries entries) o).outcome.1 = (readEntries entries o).outcome.1 := by
  induction entries generalizing o with
  | nil => rfl
  | cons e rest ih =>
    obtain ⟨key, value⟩ := e
    rw [plainEntries, plainEntry, readEntries, readEntries, text?_plain]
    cases key.text? with
    | none =>
      dsimp only
      rw [outcome_warn_bind _ fun _ => appends_readEntries _ _,
        outcome_warn_bind _ fun _ => appends_readEntries _ _, ih]
    | some name =>
      dsimp only
      cases flagNamed? name with
      | some flag =>
        dsimp only
        rw [readFlag_plain, outcome_ofExcept_bind, outcome_ofExcept_bind]
        exact congrArg _ (funext fun o => ih o)
      | none =>
        dsimp only
        split
        · rw [outcome_bind _ fun _ => appends_readEntries _ _,
            outcome_bind _ fun _ => appends_readEntries _ _, readRules_plain]
          exact congrArg _ (funext fun rules => ih _)
        · rw [outcome_warn_bind _ fun _ => appends_readEntries _ _,
            outcome_warn_bind _ fun _ => appends_readEntries _ _, ih]

/-- Options are read from a value as they are from that value without its marks. -/
theorem ofValue_plain (data : Value) :
    (ofValue data.plain).outcome.1 = (ofValue data).outcome.1 := by
  obtain ⟨u, hu, hplain, hmark⟩ := data.exists_unmarked
  rw [ofValue, ofValue, unshare_plain, hplain, hu]
  cases u with
  | dict entries => exact readEntries_plain entries {}
  | frozen entries => exact readEntries_plain entries {}
  | shared id v => exact absurd rfl (hmark id v)
  | _ => rfl

end Plain

end LineJoin.Options
