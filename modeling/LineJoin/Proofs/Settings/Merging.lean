import LineJoin.Proofs.Value.Distinct
import LineJoin.Settings.Merge
import Mathlib.Data.List.Nodup

/-!
# What merging gives

A mapping that is laid over named fields gives these fields with the new values in place, followed by
the entries that are not among them. So a mapping that begins with the fields themselves comes out as
it is.
-/

namespace LineJoin.Settings

open Entries Value

section Overlay

variable {old : Option Value} {base entries : Entries} {v : Value}

theorem overlay_of_value : ∀ {v : Value}, v.dict? = none → ∀ old, overlay old v = v
  | .shared id v, h, old => by
    rw [overlay, show v.dict? = none from h]
    cases old.bind dict? <;> rfl
  | .null, _, _ | .bool _, _, _ | .int _, _, _ | .float _, _, _ | .str _, _, _ | .bytes _, _, _
  | .list _, _, _ | .tuple _, _, _ | .set _, _, _ | .frozen _, _, _ | .object _, _, _
  | .rule _, _, _ | .day _, _, _ | .moment _, _, _ => by rfl

theorem overlay_of_old (hold : old.bind dict? = none) (v : Value) : overlay old v = v := by
  cases v with
  | dict entries => rw [overlay, hold]
  | shared id v => rw [overlay, hold]
  | _ => exact overlay_of_value rfl old

theorem overlay_dict (hold : old.bind dict? = some base) : ∀ {v : Value}, v.dict? = some entries →
    overlay old v = .dict (merge base entries)
  | .dict _, h => by
    cases h
    rw [overlay, hold]
  | .shared id v, h => by
    rw [overlay, hold, show v.dict? = some entries from h]
    exact overlay_dict hold (v := v) h

theorem bind_dict?_plain (old : Option Value) :
    (old.map plain).bind dict? = (old.bind dict?).map plainEntries := by
  cases old with
  | none => rfl
  | some w => exact dict?_plain w

mutual
theorem plain_overlay : ∀ (old : Option Value) (v : Value),
    (overlay old v).plain = overlay (old.map plain) v.plain
  | old, .dict entries => by
    rw [overlay, plain, overlay, bind_dict?_plain]
    cases old.bind dict? with
    | none => rfl
    | some base => exact congrArg dict (plainEntries_merge base entries)
  | old, .shared id v => by
    cases hold : old.bind dict? with
    | none =>
      rw [overlay_of_old hold, overlay_of_old (by rw [bind_dict?_plain, hold]; rfl)]
    | some base =>
      cases hv : v.dict? with
      | none =>
        rw [overlay_of_value (v := .shared id v) hv, plain,
          overlay_of_value (by rw [dict?_plain, hv]; rfl)]
      | some entries =>
        rw [overlay, hold, hv, plain]
        exact plain_overlay old v
  | old, .null | old, .bool _ | old, .int _ | old, .float _ | old, .str _ | old, .bytes _
  | old, .list _ | old, .tuple _ | old, .set _ | old, .frozen _ | old, .object _ | old, .rule _
  | old, .day _ | old, .moment _ => by rw [overlay_of_value rfl, overlay_of_value rfl]

theorem plainEntries_merge : ∀ (base : Entries) (entries : List (Value × Value)),
    plainEntries (merge base entries) = merge (plainEntries base) (plainEntries entries)
  | _, [] => by rfl
  | base, (key, v) :: rest => by
    rw [merge, plainEntries_merge, ← put_plain, plain_overlay, plainEntries, plainEntry, merge,
      get?_plain]
end

end Overlay

/-! ## Laying a mapping over named fields -/

section Fields

variable {fields : List (String × Value)} {upper tail : Entries} {key v : Value} {name : String}

/-- A field with what is laid over it, if anything is. -/
def laidOver (upper : Entries) (f : String × Value) : String × Value :=
  (f.1, match named? upper f.1 with
    | some v => overlay (some f.2) v
    | none => f.2)

/-- The entries that have none of the names. -/
def others (names : List String) (entries : Entries) : Entries :=
  entries.filter fun e => e.1.text?.all (· ∉ names)

theorem others_of_apart {names : List String} {entries : Entries} (h : Apart names entries) :
    others names entries = entries := by
  refine List.filter_eq_self.mpr fun e he => ?_
  cases htext : e.1.text? with
  | none => rfl
  | some name =>
    rw [Option.all_some, decide_eq_true_eq]
    exact fun hname => h e he name hname htext

theorem others_cons (names : List String) (e : Value × Value) (rest : Entries) :
    others names (e :: rest) =
      if ∃ name ∈ names, e.1.text? = some name then others names rest
      else e :: others names rest := by
  rw [others, List.filter_cons]
  cases htext : e.1.text? with
  | none => simp [others]
  | some name => by_cases hname : name ∈ names <;> simp [others, hname]

theorem others_append (names : List String) (entries more : Entries) :
    others names (entries ++ more) = others names entries ++ others names more :=
  List.filter_append _ _

theorem others_ofFields (fields : List (String × Value)) (entries : Entries) :
    others (fields.map (·.1)) (ofFields fields ++ entries) =
      others (fields.map (·.1)) entries := by
  rw [others, List.filter_append, List.filter_eq_nil_iff.mpr, List.nil_append, others]
  rintro e he
  obtain ⟨f, hf, rfl⟩ := List.mem_map.mp he
  simpa [text?] using ⟨f.2, hf⟩

/-- Putting a value under the name of a field changes the field. -/
theorem put_field (hfields : (fields.map (·.1)).Nodup) (hkey : key.text? = some name)
    (hname : name ∈ fields.map (·.1)) (v : Value) (tail : Entries) :
    Entries.put key v (ofFields fields ++ tail) =
      ofFields (fields.map fun f => if f.1 = name then (f.1, v) else f) ++ tail := by
  induction fields with
  | nil => exact absurd hname List.not_mem_nil
  | cons f rest ih =>
    have hrest := List.nodup_cons.mp hfields
    have hsame : (Value.str f.1).sameKey key = (f.1 == name) := sameKey_of_text hkey (.str f.1)
    rw [ofFields, List.map_cons, List.cons_append, Entries.put, hsame, List.map_cons, ofFields,
      List.map_cons, List.cons_append]
    by_cases hf : f.1 = name
    · have hunchanged : (rest.map fun g => if g.1 = name then (g.1, v) else g) = rest :=
        (List.map_congr_left fun g hg => if_neg fun h =>
          hrest.1 (List.mem_map.mpr ⟨g, hg, h.trans hf.symm⟩)).trans (List.map_id rest)
      rw [if_pos (beq_iff_eq.mpr hf), if_pos hf, hunchanged]
    · have hmem : name ∈ rest.map (·.1) :=
        (List.mem_cons.mp hname).resolve_left fun h => hf h.symm
      rw [if_neg (fun h => hf (beq_iff_eq.mp h)), if_neg hf]
      exact congrArg _ (ih hrest.2 hmem)

theorem laidOver_cons_of_ne {e : Value × Value} {f : String × Value} (h : e.1.text? ≠ some f.1)
    (rest : Entries) : laidOver (e :: rest) f = laidOver rest f := by
  rw [laidOver, named?_cons, if_neg h]
  rfl

/-- A field that gets a value keeps it if the mapping has no other value for it. -/
theorem laidOver_cons_of_text {e : Value × Value} {f : String × Value} {rest : Entries}
    (hupper : Distinct (e :: rest)) (h : e.1.text? = some f.1) :
    laidOver (e :: rest) f = laidOver rest (f.1, overlay (some f.2) e.2) := by
  have hnone : named? rest f.1 = none := by
    rw [Option.eq_none_iff_forall_ne_some]
    intro v hv
    obtain ⟨g, hg, hname, -⟩ := mem_of_named? hv
    have hkey : e.1.sameKey g.1 = false := (List.pairwise_cons.mp hupper).1 g hg
    rw [sameKey_of_text hname, h, beq_self_eq_true] at hkey
    cases hkey
  rw [laidOver, named?_cons, if_pos h, laidOver, hnone]

/-- The first entry of a mapping, laid over the field that it names. -/
theorem laidOver_putField {f : String × Value} {rest : Entries}
    (hfields : (fields.map (·.1)).Nodup) (hupper : Distinct ((key, v) :: rest)) (hf : f ∈ fields)
    (hkey : key.text? = some f.1) :
    (fields.map fun g => if g.1 = f.1 then (g.1, overlay (some f.2) v) else g).map
        (laidOver rest) = fields.map (laidOver ((key, v) :: rest)) := by
  rw [List.map_map]
  refine List.map_congr_left fun g hg => ?_
  by_cases hgf : g.1 = f.1
  · have hg : g = f := List.inj_on_of_nodup_map hfields hg hf hgf
    rw [hg, laidOver_cons_of_text hupper hkey]
    exact congrArg _ (if_pos rfl)
  · rw [laidOver_cons_of_ne (fun h => hgf (Option.some.inj (h.symm.trans hkey)))]
    exact congrArg _ (if_neg hgf)

theorem map_fst_putField (f : String × Value) (w : Value) (fields : List (String × Value)) :
    (fields.map fun g => if g.1 = f.1 then (g.1, w) else g).map (·.1) = fields.map (·.1) := by
  rw [List.map_map]
  refine List.map_congr_left fun g _ => ?_
  by_cases hg : g.1 = f.1 <;> simp [hg]

/-- A key that is no name of a field and comes first does not occur in what it is put into. -/
theorem new_of_no_name (hname : ¬∃ name ∈ fields.map (·.1), key.text? = some name)
    (htail : ∀ t ∈ tail, t.1.sameKey key = false) :
    ∀ e ∈ ofFields fields ++ tail, e.1.sameKey key = false := by
  intro e he
  rcases List.mem_append.mp he with he | he
  · obtain ⟨f, hf, rfl⟩ := List.mem_map.mp he
    refine Bool.eq_false_iff.mpr fun hsame => hname ?_
    exact ⟨f.1, List.mem_map_of_mem hf, (text?_of_sameKey hsame).symm⟩
  · exact htail e he

/-- Entries that come later neither change nor restore what earlier ones have put in place, since no
key comes twice. -/
theorem merge_append (hfields : (fields.map (·.1)).Nodup) (hupper : Distinct upper)
    (htail : ∀ t ∈ tail, ∀ e ∈ upper, t.1.sameKey e.1 = false) :
    merge (ofFields fields ++ tail) upper =
      ofFields (fields.map (laidOver upper)) ++ tail ++ others (fields.map (·.1)) upper := by
  -- Each entry changes a field or goes to the end, so both grow into something else on the way.
  induction upper generalizing fields tail with
  | nil =>
    rw [merge, others, List.filter_nil, List.append_nil]
    exact congrArg (ofFields · ++ tail) (List.map_id fields).symm
  | cons e rest ih =>
    obtain ⟨key, v⟩ := e
    have hrest : ∀ t ∈ tail, ∀ e ∈ rest, t.1.sameKey e.1 = false :=
      fun t ht e he => htail t ht e (List.mem_cons_of_mem _ he)
    rw [merge, others_cons]
    by_cases hkey : ∃ name ∈ fields.map (·.1), key.text? = some name
    · obtain ⟨name, hname, hkey⟩ := hkey
      obtain ⟨f, hf, rfl⟩ := List.mem_map.mp hname
      rw [if_pos ⟨f.1, hname, hkey⟩, get?_of_text hkey, named?_append, named?_field hfields hf,
        Option.some_or, put_field hfields hkey hname]
      have hnames := map_fst_putField f (overlay (some f.2) v) fields
      rw [ih (hnames ▸ hfields) hupper.of_cons hrest, hnames,
        laidOver_putField hfields hupper hf hkey]
    · have hnew := new_of_no_name hkey fun t ht => htail t ht (key, v) List.mem_cons_self
      rw [if_neg hkey, get?_of_new hnew, overlay_of_old rfl, put_of_new hnew, List.append_assoc,
        ih hfields hupper.of_cons]
      · have hlaid : fields.map (laidOver ((key, v) :: rest)) = fields.map (laidOver rest) :=
          List.map_congr_left fun f hf =>
            laidOver_cons_of_ne (fun h => hkey ⟨f.1, List.mem_map_of_mem hf, h⟩) rest
        rw [hlaid, List.append_assoc, List.append_assoc, List.append_assoc]
        rfl
      · intro t ht e he
        rcases List.mem_append.mp ht with ht | ht
        · exact hrest t ht e he
        · rw [List.mem_singleton.mp ht]
          exact (List.pairwise_cons.mp hupper).1 e he

/-- What comes out of laying a mapping over named fields. -/
theorem merge_ofFields (hfields : (fields.map (·.1)).Nodup) (hupper : Distinct upper) :
    merge (ofFields fields) upper =
      ofFields (fields.map (laidOver upper)) ++ others (fields.map (·.1)) upper := by
  have hnone : ∀ t ∈ ([] : Entries), ∀ e ∈ upper, t.1.sameKey e.1 = false :=
    fun _ h => absurd h List.not_mem_nil
  have h := merge_append hfields hupper hnone
  rwa [List.append_nil, List.append_nil] at h

theorem map_fst_laidOver (fields : List (String × Value)) (upper : Entries) :
    (fields.map (laidOver upper)).map (·.1) = fields.map (·.1) := by
  rw [List.map_map]
  rfl

theorem named?_merge (hfields : (fields.map (·.1)).Nodup) (hupper : Distinct upper)
    {f : String × Value} (hf : f ∈ fields) :
    named? (merge (ofFields fields) upper) f.1 = some (laidOver upper f).2 := by
  have hlaid : named? (ofFields (fields.map (laidOver upper))) f.1 = some (laidOver upper f).2 :=
    named?_field (f := laidOver upper f) (by rwa [map_fst_laidOver]) (List.mem_map_of_mem hf)
  rw [merge_ofFields hfields hupper, named?_append, hlaid, Option.some_or]

theorem mem_merge (hfields : (fields.map (·.1)).Nodup) (hupper : Distinct upper)
    {e : Value × Value} (he : e ∈ merge (ofFields fields) upper) :
    e ∈ upper ∨ ∃ f ∈ fields, e = (.str f.1, (laidOver upper f).2) := by
  rw [merge_ofFields hfields hupper] at he
  rcases List.mem_append.mp he with he | he
  · obtain ⟨g, hg, rfl⟩ := List.mem_map.mp he
    obtain ⟨f, hf, rfl⟩ := List.mem_map.mp hg
    exact .inr ⟨f, hf, rfl⟩
  · exact .inl (List.mem_of_mem_filter he)

theorem begins_merge {names : List String} {base : Entries} (h : Begins names base)
    (upper : Entries) : Begins names (merge base upper) := by
  induction upper generalizing base with
  | nil => exact h
  | cons e rest ih =>
    obtain ⟨key, v⟩ := e
    exact ih (h.put _ _)

end Fields

end LineJoin.Settings
