import LineJoin.Proofs.Joining.NodeParts
import LineJoin.Proofs.Value.Plain

/-!
# Mappings with distinct keys

A mapping that is made by putting entries one after the other has no key twice. `ofFields` makes a
mapping of named fields, and `Apart` says that a mapping has none of some names.
-/

namespace LineJoin

namespace Value

theorem number?_of_text : ∀ {v : Value} {s : String}, v.text? = some s → v.number? = none
  | .shared _ v, _, h => number?_of_text (v := v) h
  | .str _, _, _ => rfl

/-- The same key is the same text, or no text at both times. -/
theorem text?_of_sameKey : ∀ {v w : Value}, v.sameKey w = true → v.text? = w.text?
  | .shared _ v, w, h => by
    rw [sameKey] at h
    exact text?_of_sameKey (v := v) h
  | .str s, w, h => (beq_iff_eq.mp h).symm
  | .null, w, h | .bytes _, w, h | .rule _, w, h | .day _, w, h | .moment _, w, h
  | .tuple _, w, h => by
    obtain ⟨u, hu, hplain, hmark⟩ := w.exists_unmarked
    rw [sameKey, hu] at h
    rw [← text?_plain w, hplain, text?_plain]
    cases u with
    | str s => cases h
    | shared id v => exact absurd rfl (hmark id v)
    | _ => rfl
  | .bool _, w, h | .int _, w, h | .float _, w, h => by
    cases hw : w.text? with
    | none => rfl
    | some s =>
      simp only [sameKey, number?_of_text hw] at h
      cases h
  | .list _, w, h | .set _, w, h | .dict _, w, h | .frozen _, w, h | .object _, w, h => by
    simp only [sameKey, number?] at h
    cases h

/-- A text as a key is the same key as that text alone. -/
theorem sameKey_of_text {key : Value} {name : String} (h : key.text? = some name) (v : Value) :
    v.sameKey key = (v.text? == some name) := by
  rw [← sameKey_plain_right v key, plain_of_text h, sameKey_str]

end Value

namespace Entries

open Value

variable {entries more : Entries} {key v : Value} {name : String}

/-- No key is the same as one before it. -/
def Distinct (entries : Entries) : Prop := entries.Pairwise fun e f => e.1.sameKey f.1 = false

instance (entries : Entries) : Decidable (Distinct entries) :=
  inferInstanceAs (Decidable (entries.Pairwise fun e f => e.1.sameKey f.1 = false))

theorem Distinct.of_cons {e : Value × Value} (h : Distinct (e :: entries)) : Distinct entries :=
  (List.pairwise_cons.mp h).2

theorem Distinct.plain (h : Distinct entries) : Distinct (plainEntries entries) := by
  rw [plainEntries_eq, Distinct, List.pairwise_map]
  exact h.imp fun hkeys => by rwa [sameKey_plain]

/-- Putting a value under a key changes the value of an entry, or adds an entry at the end. -/
theorem put_cases (key v : Value) (entries : Entries) :
    (∃ before e after, entries = before ++ e :: after ∧ e.1.sameKey key = true ∧
        (∀ f ∈ before, f.1.sameKey key = false) ∧
        put key v entries = before ++ (e.1, v) :: after) ∨
      (∀ e ∈ entries, e.1.sameKey key = false) ∧ put key v entries = entries ++ [(key, v)] := by
  induction entries with
  | nil => exact .inr ⟨fun _ h => absurd h List.not_mem_nil, rfl⟩
  | cons e rest ih =>
    rw [put]
    by_cases he : e.1.sameKey key
    · rw [if_pos he]
      exact .inl ⟨[], e, rest, rfl, he, fun _ h => absurd h List.not_mem_nil, rfl⟩
    · rw [if_neg he]
      rw [Bool.not_eq_true] at he
      rcases ih with ⟨before, f, after, hrest, hf, hbefore, hput⟩ | ⟨hrest, hput⟩
      · refine .inl ⟨e :: before, f, after, by rw [hrest]; rfl, hf, ?_, by rw [hput]; rfl⟩
        exact List.forall_mem_cons.mpr ⟨he, hbefore⟩
      · exact .inr ⟨List.forall_mem_cons.mpr ⟨he, hrest⟩, by rw [hput]; rfl⟩

theorem put_of_new (h : ∀ e ∈ entries, e.1.sameKey key = false) (v : Value) :
    Entries.put key v entries = entries ++ [(key, v)] := by
  rcases put_cases key v entries with ⟨before, e, after, rfl, he, -, -⟩ | ⟨-, hput⟩
  · rw [h e (List.mem_append_right _ List.mem_cons_self)] at he
    cases he
  · exact hput

theorem get?_of_new (h : ∀ e ∈ entries, e.1.sameKey key = false) : get? entries key = none := by
  rw [get?, List.find?_eq_none.mpr fun e he => Bool.eq_false_iff.mp (h e he)]
  rfl

theorem Distinct.put (h : Distinct entries) (key v : Value) :
    Distinct (put key v entries) := by
  rcases put_cases key v entries with ⟨before, e, after, rfl, -, -, hput⟩ | ⟨hnone, hput⟩
  · rw [hput]
    rw [Distinct, List.pairwise_append, List.pairwise_cons] at h ⊢
    simpa only [List.forall_mem_cons] using h
  · rw [hput, Distinct, List.pairwise_append]
    refine ⟨h, List.pairwise_singleton _ _, fun e he f hf => ?_⟩
    rw [List.mem_singleton.mp hf]
    exact hnone e he

theorem distinct_ofPairs (pairs : List (Value × Value)) : Distinct (ofPairs pairs) := by
  suffices ∀ entries, Distinct entries →
      Distinct (pairs.foldl (fun entries p => Entries.put p.1 p.2 entries) entries) from
    this [] List.Pairwise.nil
  induction pairs with
  | nil => exact fun _ h => h
  | cons p rest ih => exact fun entries h => ih _ (h.put p.1 p.2)

theorem mem_put {e : Value × Value} (h : e ∈ Entries.put key v entries) :
    e ∈ entries ∨ e.1.text? = key.text? ∧ e.2 = v := by
  rcases put_cases key v entries with ⟨before, f, after, rfl, hf, -, hput⟩ | ⟨-, hput⟩
  · rw [hput] at h
    rcases List.mem_append.mp h with h | h
    · exact .inl (List.mem_append_left _ h)
    · rcases List.mem_cons.mp h with rfl | h
      · exact .inr ⟨text?_of_sameKey hf, rfl⟩
      · exact .inl (List.mem_append_right _ (List.mem_cons_of_mem _ h))
  · rw [hput] at h
    rcases List.mem_append.mp h with h | h
    · exact .inl h
    · rw [List.mem_singleton.mp h]
      exact .inr ⟨rfl, rfl⟩

/-- The values of a mapping that is made of pairs are values of these. -/
theorem mem_ofPairs {pairs : List (Value × Value)} {e : Value × Value} (h : e ∈ ofPairs pairs) :
    ∃ p ∈ pairs, e.2 = p.2 := by
  suffices ∀ entries, e ∈ pairs.foldl (fun entries p => Entries.put p.1 p.2 entries) entries →
      e ∈ entries ∨ ∃ p ∈ pairs, e.2 = p.2 from (this [] h).resolve_left List.not_mem_nil
  clear h
  induction pairs with
  | nil => exact fun _ h => .inl h
  | cons p rest ih =>
    intro entries h
    rcases ih _ h with h | ⟨q, hq, he⟩
    · rcases mem_put h with h | h
      · exact .inl h
      · exact .inr ⟨p, List.mem_cons_self, h.2⟩
    · exact .inr ⟨q, List.mem_cons_of_mem _ hq, he⟩

theorem named?_cons (e : Value × Value) (rest : Entries) (name : String) :
    named? (e :: rest) name = if e.1.text? = some name then some e.2 else named? rest name := by
  rw [named?, get?, List.find?_cons, sameKey_str]
  by_cases h : e.1.text? = some name
  · rw [if_pos h, h, beq_self_eq_true]
    rfl
  · rw [if_neg h, beq_eq_false_iff_ne.mpr h]
    rfl

theorem named?_append (entries more : Entries) (name : String) :
    named? (entries ++ more) name = (named? entries name).or (named? more name) := by
  rw [named?, get?, List.find?_append, Option.map_or]
  rfl

theorem get?_of_text (h : key.text? = some name) (entries : Entries) :
    get? entries key = named? entries name := by
  simp only [named?, get?, sameKey_of_text h, sameKey_str]

theorem named?_put (entries : Entries) (key v : Value) (name : String) :
    named? (put key v entries) name =
      if key.text? = some name then some v else named? entries name := by
  induction entries with
  | nil => exact named?_cons (key, v) [] name
  | cons e rest ih =>
    rw [put]
    by_cases he : e.1.sameKey key
    · rw [if_pos he, named?_cons, named?_cons, text?_of_sameKey he]
      split <;> rfl
    · rw [if_neg he, named?_cons, named?_cons, ih]
      by_cases hkey : key.text? = some name
      · rw [sameKey_of_text hkey, beq_iff_eq] at he
        rw [if_neg he, if_pos hkey, if_pos hkey]
      · rw [if_neg hkey, if_neg hkey]

theorem named?_of_mem (h : Distinct entries) {e : Value × Value} (he : e ∈ entries)
    (hname : e.1.text? = some name) : named? entries name = some e.2 := by
  induction entries with
  | nil => exact absurd he List.not_mem_nil
  | cons f rest ih =>
    rw [named?_cons]
    rcases List.mem_cons.mp he with rfl | he
    · rw [if_pos hname]
    · have hf : f.1.sameKey e.1 = false := (List.pairwise_cons.mp h).1 e he
      rw [sameKey_of_text hname, beq_eq_false_iff_ne] at hf
      rw [if_neg hf, ih h.of_cons he]

theorem mem_of_named? (h : named? entries name = some v) :
    ∃ e ∈ entries, e.1.text? = some name ∧ e.2 = v := by
  induction entries with
  | nil => cases h
  | cons f rest ih =>
    rw [named?_cons] at h
    split at h
    · exact ⟨f, List.mem_cons_self, ‹_›, Option.some.inj h⟩
    · obtain ⟨e, he, hname, hv⟩ := ih h
      exact ⟨e, List.mem_cons_of_mem _ he, hname, hv⟩

theorem named_eq {name : String} (h : named? entries name = some v) : named entries name = v := by
  rw [named, h]
  rfl

theorem named_putNamed (entries : Entries) (name : String) (v : Value) (other : String) :
    named (putNamed entries name v) other = if name = other then v else named entries other := by
  rw [named, putNamed, named?_put, text?]
  by_cases h : name = other
  · rw [if_pos (congrArg some h), if_pos h]
    rfl
  · rw [if_neg fun hsome => h (Option.some.inj hsome), if_neg h]
    rfl

/-! ## Named fields -/

/-- The mapping of named fields. -/
def ofFields (fields : List (String × Value)) : Entries := fields.map fun f => (.str f.1, f.2)

theorem distinct_ofFields {fields : List (String × Value)} (h : (fields.map (·.1)).Nodup) :
    Distinct (ofFields fields) := by
  rw [Distinct, ofFields, List.pairwise_map]
  refine (List.pairwise_map.mp h).imp fun hne => ?_
  rw [sameKey_str, text?, beq_eq_false_iff_ne]
  exact fun h => hne (Option.some.inj h)

theorem named?_field {fields : List (String × Value)} (h : (fields.map (·.1)).Nodup)
    {f : String × Value} (hf : f ∈ fields) : named? (ofFields fields) f.1 = some f.2 :=
  named?_of_mem (distinct_ofFields h) (List.mem_map_of_mem hf) rfl

/-- A mapping has no value under any of the names. -/
def Apart (names : List String) (entries : Entries) : Prop :=
  ∀ e ∈ entries, ∀ name ∈ names, e.1.text? ≠ some name

section Beginning

variable {names : List String}

/-- The keys of a mapping begin with the names, and none of its keys comes twice. -/
structure Begins (names : List String) (entries : Entries) : Prop where
  distinct : Distinct entries
  keys : names.map Value.str <+: entries.map (·.1)

theorem keys_put (key v : Value) (entries : Entries) :
    entries.map (·.1) <+: (Entries.put key v entries).map (·.1) := by
  rcases put_cases key v entries with ⟨before, e, after, rfl, -, -, hput⟩ | ⟨-, hput⟩
  · rw [hput, List.map_append, List.map_append]
    exact List.prefix_rfl
  · rw [hput, List.map_append]
    exact List.prefix_append _ _

theorem Begins.put (h : Begins names entries) (key v : Value) :
    Begins names (Entries.put key v entries) :=
  ⟨h.distinct.put key v, h.keys.trans (keys_put key v entries)⟩

theorem begins_ofFields {fields : List (String × Value)} (h : (fields.map (·.1)).Nodup) :
    Begins (fields.map (·.1)) (ofFields fields) := by
  refine ⟨distinct_ofFields h, ?_⟩
  rw [ofFields, List.map_map, List.map_map]
  exact List.prefix_rfl

/-- The entries with the names come first, and the others have none of them. -/
theorem Begins.split (h : Begins names entries) :
    ∃ fields more, entries = ofFields fields ++ more ∧ fields.map (·.1) = names ∧
      names.Nodup ∧ Apart names more := by
  obtain ⟨hdistinct, hkeys⟩ := h
  induction names generalizing entries with
  | nil => exact ⟨[], entries, rfl, rfl, List.nodup_nil, fun _ _ _ h => absurd h List.not_mem_nil⟩
  | cons name names ih =>
    cases entries with
    | nil => exact absurd (List.prefix_nil.mp hkeys) (List.cons_ne_nil _ _)
    | cons e rest =>
      obtain ⟨key, v⟩ := e
      obtain ⟨rfl, hrest⟩ := List.cons_prefix_cons.mp hkeys
      obtain ⟨fields, more, rfl, rfl, hnodup, hapart⟩ := ih hdistinct.of_cons hrest
      have hnew : ∀ f ∈ ofFields fields ++ more, f.1.text? ≠ some name := by
        intro f hf htext
        have hkey := (List.pairwise_cons.mp hdistinct).1 f hf
        rw [sameKey_of_text htext, text?, beq_self_eq_true] at hkey
        cases hkey
      refine ⟨(name, v) :: fields, more, rfl, rfl, List.nodup_cons.mpr ⟨?_, hnodup⟩, ?_⟩
      · intro hname
        obtain ⟨f, hf, rfl⟩ := List.mem_map.mp hname
        exact hnew _ (List.mem_append_left _ (List.mem_map_of_mem hf)) rfl
      · intro f hf other hother
        rcases List.mem_cons.mp hother with rfl | hother
        · exact hnew f (List.mem_append_right _ hf)
        · exact hapart f hf other hother

theorem Begins.named? (h : Begins names entries) (hname : name ∈ names) :
    ∃ v, named? entries name = some v := by
  obtain ⟨fields, more, rfl, rfl, hnodup, -⟩ := h.split
  obtain ⟨f, hf, rfl⟩ := List.mem_map.mp hname
  exact ⟨f.2, by rw [named?_append, named?_field hnodup hf, Option.some_or]⟩

theorem Begins.plain (h : Begins names entries) : Begins names (plainEntries entries) := by
  refine ⟨h.distinct.plain, ?_⟩
  have hkeys := h.keys.map Value.plain
  rw [List.map_map, List.map_map] at hkeys
  rw [plainEntries_eq, List.map_map]
  exact hkeys

end Beginning

end Entries

end LineJoin
