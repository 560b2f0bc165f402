import LineJoin.Proofs.Value.Keys

/-!
# Values at paths of keys

A path of keys leads from a value through the mappings inside it. Only mappings that can be changed
are looked into; any other value is a leaf.
-/

namespace LineJoin

namespace Value

/-- The value at a path, if every key of the path is in the mapping that it comes to. -/
def at? : Value → List Value → Option Value
  | v, [] => some v
  | v, key :: path =>
    match v.dict?.bind (Entries.get? · key) with
    | some w => w.at? path
    | none => none

/-- The mapping at a path, if there is one. -/
def mappingAt? (v : Value) (path : List Value) : Option Entries := (v.at? path).bind dict?

/-- The keys of the mapping at a path, none if there is no mapping. -/
def keysAt (v : Value) (path : List Value) : List Value :=
  ((v.mappingAt? path).getD []).map (·.1)

/-- A path leads through mappings to a key that is not there. -/
def Lacks : Value → List Value → Prop
  | _, [] => False
  | v, key :: path => ∃ entries, v.dict? = some entries ∧
    match Entries.get? entries key with
    | some w => w.Lacks path
    | none => True

mutual
/-- A property of every mapping inside a value. -/
def Throughout (P : Entries → Prop) : Value → Prop
  | .dict entries => P entries ∧ ThroughoutAll P entries
  | .shared _ v => v.Throughout P
  | _ => True

def ThroughoutAll (P : Entries → Prop) : List (Value × Value) → Prop
  | [] => True
  | (_, v) :: rest => v.Throughout P ∧ ThroughoutAll P rest
end

mutual
theorem inside_of_step {P : Value → Prop} (step : ∀ v : Value,
    (∀ entries, v.dict? = some entries → ∀ e ∈ entries, P e.2) → P v) : ∀ v : Value,
    ∀ entries, v.dict? = some entries → ∀ e ∈ entries, P e.2
  | .shared _ v, _, h => inside_of_step step v _ h
  | .dict entries, _, h => Option.some.inj h ▸ values_of_step step entries

theorem values_of_step {P : Value → Prop} (step : ∀ v : Value,
    (∀ entries, v.dict? = some entries → ∀ e ∈ entries, P e.2) → P v) :
    ∀ entries : List (Value × Value), ∀ e ∈ entries, P e.2
  | [] => List.forall_mem_nil _
  | (_, v) :: rest =>
    List.forall_mem_cons.mpr ⟨step v (inside_of_step step v), values_of_step step rest⟩
end

/-- Induction over the mappings inside a value. -/
@[elab_as_elim]
theorem dict_induction {P : Value → Prop} (v : Value) (step : ∀ v : Value,
    (∀ entries, v.dict? = some entries → ∀ e ∈ entries, P e.2) → P v) : P v :=
  step v (inside_of_step step v)

section Paths

variable {v w : Value} {entries : Entries} {key : Value} {path : List Value} {P : Entries → Prop}

theorem at?_cons_of_dict? (h : v.dict? = some entries) (key : Value) (path : List Value) :
    v.at? (key :: path) = (Entries.get? entries key).bind (·.at? path) := by
  rw [at?, h, Option.bind_some]
  cases Entries.get? entries key <;> rfl

theorem at?_cons_of_leaf (h : v.dict? = none) (key : Value) (path : List Value) :
    v.at? (key :: path) = none := by
  rw [at?, h, Option.bind_none]

theorem keysAt_nil (h : v.dict? = some entries) : v.keysAt [] = entries.map (·.1) := by
  rw [keysAt, mappingAt?, at?, Option.bind_some, h, Option.getD_some]

theorem mappingAt?_cons_of_dict? (h : v.dict? = some entries) (key : Value) (path : List Value) :
    v.mappingAt? (key :: path) = (Entries.get? entries key).bind (·.mappingAt? path) := by
  rw [mappingAt?, at?_cons_of_dict? h, Option.bind_assoc]
  rfl

theorem keysAt_cons_of_dict? (h : v.dict? = some entries) (key : Value) (path : List Value) :
    v.keysAt (key :: path) = (Entries.get? entries key).elim [] (·.keysAt path) := by
  rw [keysAt, mappingAt?_cons_of_dict? h]
  cases Entries.get? entries key <;> rfl

theorem mappingAt?_of_leaf (h : v.dict? = none) (path : List Value) : v.mappingAt? path = none := by
  cases path with
  | nil => exact h
  | cons key path => rw [mappingAt?, at?_cons_of_leaf h, Option.bind_none]

theorem mappingAt?_ne_none (h : v.mappingAt? path ≠ none) : v.dict? ≠ none :=
  fun hleaf => h (mappingAt?_of_leaf hleaf path)

theorem keysAt_of_no_mapping {old : Option Value} (h : old.bind dict? = none) (path : List Value) :
    old.elim [] (·.keysAt path) = [] := by
  cases old with
  | none => rfl
  | some v => rw [Option.elim_some, keysAt, mappingAt?_of_leaf h]; rfl

theorem throughoutAll_iff (P : Entries → Prop) (entries : List (Value × Value)) :
    ThroughoutAll P entries ↔ ∀ e ∈ entries, e.2.Throughout P := by
  induction entries with
  | nil => exact ⟨fun _ => List.forall_mem_nil _, fun _ => trivial⟩
  | cons e rest ih => rw [ThroughoutAll, List.forall_mem_cons, ih]

theorem throughout_of_dict? : ∀ {v : Value} {entries : Entries}, v.dict? = some entries →
    (v.Throughout P ↔ P entries ∧ ∀ e ∈ entries, e.2.Throughout P)
  | .shared _ v, _, h => by
    rw [Throughout]
    exact throughout_of_dict? (v := v) h
  | .dict entries, _, rfl => by rw [Throughout, throughoutAll_iff]

theorem throughout_of_leaf : ∀ {v : Value}, v.dict? = none → v.Throughout P
  | .shared _ v, h => by
    rw [Throughout]
    exact throughout_of_leaf (v := v) h
  | .null, _ | .bool _, _ | .int _, _ | .float _, _ | .str _, _ | .bytes _, _ | .list _, _
  | .tuple _, _ | .set _, _ | .frozen _, _ | .object _, _ | .rule _, _ | .day _, _
  | .moment _, _ => by simp only [Throughout]

theorem throughout_of_get? {u : Value} (hv : v.dict? = some entries) (h : v.Throughout P)
    (hu : Entries.get? entries key = some u) : u.Throughout P := by
  obtain ⟨e, he, rfl⟩ := Entries.mem_of_get? hu
  exact ((throughout_of_dict? hv).mp h).2 e he

theorem lacks_cons_of_dict? (h : v.dict? = some entries) (key : Value) (path : List Value) :
    v.Lacks (key :: path) ↔ match Entries.get? entries key with
      | some u => u.Lacks path
      | none => True := by
  cases hget : Entries.get? entries key <;>
    simp only [Lacks, h, hget, Option.some_inj, exists_eq_left']

theorem not_lacks_of_leaf (h : v.dict? = none) (path : List Value) : ¬v.Lacks path := by
  cases path with
  | nil => exact id
  | cons key path =>
    rintro ⟨entries, hentries, -⟩
    rw [h] at hentries
    cases hentries

theorem dict_of_plain (hplain : v.plain = v) (h : v.dict? = some entries) : v = .dict entries := by
  have hv : v = .dict (plainEntries entries) := hplain.symm.trans (plain_of_dict? h)
  rw [hv, dict?, Option.some_inj] at h
  rw [hv, h]

theorem plain_inside (hplain : v.plain = v) (h : v.dict? = some entries) :
    ∀ e ∈ entries, e.2.plain = e.2 := by
  obtain rfl := dict_of_plain hplain h
  rw [plain, Value.dict.injEq, plainEntries_eq] at hplain
  intro e he
  exact congrArg Prod.snd (List.map_inj_left.mp (hplain.trans (List.map_id entries).symm) e he)

end Paths

end Value

namespace Entries

open Value

variable {entries : Entries} {key v : Value}

/-- The keys of a mapping can be found: each is a value that can be a key, and so the same as itself,
and none is the same as another. -/
structure Keyed (entries : Entries) : Prop where
  distinct : Distinct entries
  found : ∀ e ∈ entries, e.1.sameKey e.1 = true

theorem Keyed.of_cons {e : Value × Value} (h : Keyed (e :: entries)) : Keyed entries :=
  ⟨h.distinct.of_cons, fun f hf => h.found f (List.mem_cons_of_mem _ hf)⟩

theorem Keyed.plain (h : Keyed entries) : Keyed (plainEntries entries) where
  distinct := h.distinct.plain
  found := by
    rw [plainEntries_eq]
    exact List.forall_mem_map.mpr fun e he => (sameKey_plain e.1 e.1).trans (h.found e he)

theorem throughout_plain (h : v.Throughout Keyed) : v.plain.Throughout Keyed := by
  induction v using dict_induction with
  | step v ih =>
    cases hv : v.dict? with
    | none => exact throughout_of_leaf (by rw [dict?_plain, hv]; rfl)
    | some entries =>
      obtain ⟨hkeyed, hvalues⟩ := (throughout_of_dict? hv).mp h
      rw [throughout_of_dict? ((dict?_plain v).trans (congrArg _ hv)), plainEntries_eq]
      refine ⟨plainEntries_eq entries ▸ hkeyed.plain, List.forall_mem_map.mpr fun e he => ?_⟩
      exact ih entries hv e he (hvalues e he)

theorem Keyed.get?_of_mem (h : Keyed entries) {e : Value × Value} (he : e ∈ entries) :
    get? entries e.1 = some e.2 := by
  induction entries with
  | nil => exact absurd he List.not_mem_nil
  | cons f rest ih =>
    rw [get?_cons]
    rcases List.mem_cons.mp he with rfl | he
    · rw [if_pos (h.found e List.mem_cons_self)]
    · have hf : f.1.sameKey e.1 = false := (List.pairwise_cons.mp h.distinct).1 e he
      rw [hf, if_neg Bool.false_ne_true, ih h.of_cons he]

/-- Mappings with the same keys in the same order are equal if they have the same values. -/
theorem Keyed.eq_of_get? {more : Entries} (h : Keyed entries)
    (hkeys : entries.map (·.1) = more.map (·.1))
    (hget : ∀ e ∈ entries, get? entries e.1 = get? more e.1) : entries = more := by
  induction entries generalizing more with
  | nil => exact (List.map_eq_nil_iff.mp hkeys.symm).symm
  | cons e rest ih =>
    obtain ⟨key, v⟩ := e
    cases more with
    | nil => cases hkeys
    | cons f more =>
      obtain ⟨other, w⟩ := f
      obtain ⟨rfl, hrest⟩ := List.cons.inj hkeys
      have hfound : key.sameKey key = true := h.found (key, v) List.mem_cons_self
      have hvalue := hget (key, v) List.mem_cons_self
      rw [get?_cons, get?_cons, if_pos hfound, if_pos hfound, Option.some_inj] at hvalue
      rw [show v = w from hvalue]
      refine congrArg _ (ih h.of_cons hrest fun g hg => ?_)
      have hnew : key.sameKey g.1 = false := (List.pairwise_cons.mp h.distinct).1 g hg
      have hsame := hget g (List.mem_cons_of_mem _ hg)
      rwa [get?_cons, get?_cons, hnew, if_neg Bool.false_ne_true,
        if_neg Bool.false_ne_true] at hsame

end Entries

end LineJoin
