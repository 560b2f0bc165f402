import LineJoin.Proofs.Results
import LineJoin.Proofs.Value.Distinct
import LineJoin.Yaml.Reader

/-!
# Mappings in YAML texts

The mappings of a value that is read from a YAML text have no key twice, at whatever depth.
-/

namespace LineJoin.Yaml

open Node

/-- The value of some node. -/
def OfNode (v : Value) : Prop := ∃ shared depth n, v = (build shared depth n).value

theorem dict?_identified (shared : Bool) (n : NodeInfo) (v : Value) :
    (identified shared n v).dict? = v.dict? := by
  unfold identified
  cases shared
  · rfl
  · cases v <;> rfl

theorem dict?_fit {α : Type} {f : α → Value} (hf : ∀ a, (f a).dict? = none)
    (x : Except Misfit α) {v : Value} (h : (x.mapError Fault.misfit).map f = .ok v) :
    v.dict? = none := by
  cases x with
  | error m => cases h
  | ok a =>
    cases h
    exact hf a

theorem dict?_timestamp {text : List Char} {v : Value} (h : Scalar.timestamp text = .ok v) :
    v.dict? = none := by
  unfold Scalar.timestamp at h
  split at h
  · cases h
  · obtain ⟨-, -, h⟩ := ok_of_bind h
    cases h
    rfl
  · dsimp only at h
    have hvalid {m : Moment} (h : (do Scalar.valid m.invalid?; return Value.moment m) = .ok v) :
        v.dict? = none := by
      obtain ⟨-, -, h⟩ := ok_of_bind h
      cases h
      rfl
    split at h
    · split at h
      · cases h
      · exact hvalid h
    · exact hvalid h

theorem dict?_binary {text : List Char} {mark : Mark} {v : Value}
    (h : Scalar.binary text mark = .ok v) : v.dict? = none := by
  unfold Scalar.binary at h
  split at h
  · cases h
  · split at h
    · cases h
      rfl
    · cases h

/-- No scalar is a mapping. -/
theorem dict?_scalar {tag : Tag} {mark : Mark} {text : List Char} {v : Value}
    (h : Scalar.value? tag mark text = some (.ok v)) : v.dict? = none := by
  unfold Scalar.value? at h
  dsimp only at h
  split at h
  · cases h
    rfl
  · exact dict?_fit (fun _ => rfl) _ (Option.some.inj h)
  · exact dict?_fit (fun _ => rfl) _ (Option.some.inj h)
  · exact dict?_fit (fun _ => rfl) _ (Option.some.inj h)
  · cases h
    rfl
  · exact dict?_binary (Option.some.inj h)
  · cases h' : Scalar.timestamp text with
    | error m =>
      rw [h'] at h
      cases h
    | ok w =>
      rw [h'] at h
      cases h
      exact dict?_timestamp h'
  · cases h

theorem dict?_misplaced (depth : Nat) (n : NodeInfo) (kind : String) {entries : Entries}
    (h : (misplaced depth n kind).value.dict? = some entries) : entries = [] := by
  unfold misplaced at h
  dsimp only at h
  split at h <;> cases h <;> rfl

theorem dict?_ofScalar (depth : Nat) (n : NodeInfo) (text : List Char) {entries : Entries}
    (h : (ofScalar depth n text).value.dict? = some entries) : entries = [] := by
  unfold ofScalar at h
  split at h
  · rename_i v hv
    rw [Built.of, dict?_scalar hv] at h
    cases h
  · cases h
  · exact dict?_misplaced depth n "scalar" h

/-- Entries are made of nodes. -/
theorem ofNode_buildEntries (shared : Bool) (depth : Nat) (mark : Mark)
    (entries : List (Node × Node)) :
    ∀ p ∈ (buildEntries shared depth mark entries).1, OfNode p.2 := by
  induction entries with
  | nil => exact fun _ h => absurd h List.not_mem_nil
  | cons e rest ih =>
    obtain ⟨key, v⟩ := e
    exact List.forall_mem_cons.mpr ⟨⟨shared, depth, v, rfl⟩, ih⟩

theorem OfNode.entries {v : Value} (h : OfNode v) {entries : Entries}
    (hv : v.dict? = some entries) : Entries.Distinct entries ∧ ∀ e ∈ entries, OfNode e.2 := by
  obtain ⟨shared, depth, n, rfl⟩ := h
  have hnil {m : NodeInfo} {kind : String} (h : (misplaced depth m kind).value.dict? = some entries) :
      Entries.Distinct entries ∧ ∀ e ∈ entries, OfNode e.2 := by
    rw [dict?_misplaced depth m kind h]
    exact ⟨List.Pairwise.nil, fun _ h => absurd h List.not_mem_nil⟩
  cases n with
  | scalar n text =>
    rw [build] at hv
    change (identified _ n _).dict? = _ at hv
    rw [dict?_identified] at hv
    rw [dict?_ofScalar depth n text hv]
    exact ⟨List.Pairwise.nil, fun _ h => absurd h List.not_mem_nil⟩
  | sequence n items =>
    rw [build] at hv
    change (identified _ n _).dict? = _ at hv
    rw [dict?_identified] at hv
    split at hv
    · cases hv
    · cases hv
    · cases hv
    · exact hnil hv
  | mapping n written merged fault =>
    rw [build] at hv
    change (identified _ n _).dict? = _ at hv
    rw [dict?_identified] at hv
    split at hv
    · cases hv
      refine ⟨Entries.distinct_ofPairs _, fun e he => ?_⟩
      obtain ⟨p, hp, he⟩ := Entries.mem_ofPairs he
      rw [he]
      exact ofNode_buildEntries _ _ _ merged p hp
    · cases hv
    · split at hv
      · rw [dict?_ofScalar depth n _ hv]
        exact ⟨List.Pairwise.nil, fun _ h => absurd h List.not_mem_nil⟩
      · exact hnil hv

theorem ofNode_of_read {text : List Char} {v : Value} (h : read text = .ok v) :
    v = .null ∨ OfNode v := by
  unfold read at h
  dsimp only at h
  split at h
  · cases h
  · obtain ⟨n?, -, h⟩ := ok_of_bind h
    cases n? with
    | none =>
      cases h
      exact .inl rfl
    | some n =>
      refine .inr ⟨false, 0, n, ?_⟩
      change n.value = .ok v at h
      unfold value at h
      dsimp only at h
      split at h
      · cases h
      · exact (Except.ok.inj h).symm

end LineJoin.Yaml
