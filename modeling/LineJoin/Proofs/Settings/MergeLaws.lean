import LineJoin.Proofs.Settings.MergeInStore
import LineJoin.Proofs.Value.Equality
import LineJoin.Proofs.Value.Keys
import LineJoin.Proofs.Value.Paths

/-!
# Laws of merging

What a mapping that is laid over another one gives at each path, and in which order. Laying the same
mapping over the result again, or the result over the mapping below, changes nothing.
-/

namespace LineJoin.Settings

open Entries Value

/-! ## One level -/

section Level

variable {base override : Entries} {old : Option Value} {v w : Value}

/-- Under each key a mapping has what is laid over its old value. -/
theorem get?_merge (h : Distinct override) (base : Entries) (key : Value) :
    get? (merge base override) key =
      ((get? override key).map (overlay (get? base key))).or (get? base key) := by
  induction override generalizing base with
  | nil => rfl
  | cons e rest ih =>
    obtain ⟨name, v⟩ := e
    rw [merge, ih h.of_cons, get?_put, get?_cons]
    by_cases hkey : name.sameKey key
    · rw [if_pos hkey, if_pos hkey, h.get?_of_cons hkey, get?_congr hkey]
      rfl
    · rw [if_neg hkey, if_neg hkey]

/-- The old keys come first, then the new ones. -/
theorem keys_merge (h : Distinct override) (base : Entries) :
    (merge base override).map (·.1) =
      base.map (·.1) ++ (override.map (·.1)).filter fun key => !base.has key := by
  induction override generalizing base with
  | nil => rw [merge, List.map_nil, List.filter_nil, List.append_nil]
  | cons e rest ih =>
    obtain ⟨name, v⟩ := e
    rw [merge, ih h.of_cons, List.map_cons]
    simp only [has_eq]
    rw [map_fst_put]
    by_cases hname : base.has name = true
    · rw [if_pos hname, List.filter_cons_of_neg]
      rw [← has_eq, hname]
      decide
    · have hrest : ∀ key ∈ rest.map (·.1), name.sameKey key = false := by
        intro key hkey
        obtain ⟨e, he, rfl⟩ := List.mem_map.mp hkey
        exact (List.pairwise_cons.mp h).1 e he
      have hfilter : (rest.map (·.1)).filter (fun key =>
            !(base.map (·.1) ++ [name]).any (·.sameKey key)) =
          (rest.map (·.1)).filter fun key => !(base.map (·.1)).any (·.sameKey key) :=
        List.filter_congr fun key hkey => by
          rw [List.any_append, List.any_cons, hrest key hkey, List.any_nil, Bool.or_false,
            Bool.or_false]
      rw [if_neg hname, hfilter, List.filter_cons_of_pos, List.append_assoc]
      · rfl
      · rw [← has_eq, Bool.not_eq_true', Bool.eq_false_iff]
        exact hname

theorem distinct_merge (h : Distinct base) (override : Entries) :
    Distinct (merge base override) := by
  induction override generalizing base with
  | nil => exact h
  | cons e rest ih =>
    obtain ⟨key, v⟩ := e
    exact ih (h.put _ _)

end Level

/-! ## At each path -/

section Paths

variable {base override : Entries} {old : Option Value} {v w : Value}

/-- A value is laid over an old one as a mapping over a mapping, or else it replaces the old one. -/
theorem overlay_cases (old : Option Value) (w : Value) :
    (∃ base override, old.bind dict? = some base ∧ w.dict? = some override ∧
        overlay old w = .dict (merge base override)) ∨
      overlay old w = w ∧ (old.bind dict? = none ∨ w.dict? = none) := by
  cases hold : old.bind dict? with
  | none => exact .inr ⟨overlay_of_old hold w, .inl rfl⟩
  | some base =>
    cases hw : w.dict? with
    | none => exact .inr ⟨overlay_of_value hw old, .inr rfl⟩
    | some override => exact .inl ⟨base, override, rfl, rfl, overlay_dict hold hw⟩

/-- A value that is no mapping comes from above, or from below where what is above lacks it. -/
theorem at?_overlay (hw : w.Throughout Distinct) (hv : v.dict? = none) (old : Option Value)
    (path : List Value) : (overlay old w).at? path = some v ↔
      w.at? path = some v ∨ old.bind (·.at? path) = some v ∧ w.Lacks path := by
  induction path generalizing old w with
  | nil =>
    have hvalue {u : Value} {entries : Entries} (hu : u.dict? = some entries) : u ≠ v := by
      rintro rfl
      rw [hu] at hv
      cases hv
    simp only [at?, Lacks, and_false, or_false, Option.some_inj]
    rcases overlay_cases old w with ⟨base, override, -, hdict, heq⟩ | ⟨heq, -⟩
    · rw [heq, iff_false_left (hvalue rfl)]
      exact hvalue hdict
    · rw [heq]
  | cons key path ih =>
    rcases overlay_cases old w with ⟨base, override, hold, hdict, heq⟩ | ⟨heq, hleaf⟩
    · obtain ⟨b, rfl, hbase⟩ := Option.bind_eq_some_iff.mp hold
      have hdistinct := ((throughout_of_dict? hdict).mp hw).1
      rw [heq, at?_cons_of_dict? rfl, at?_cons_of_dict? hdict, Option.bind_some,
        at?_cons_of_dict? hbase, lacks_cons_of_dict? hdict, get?_merge hdistinct]
      cases hget : get? override key with
      | some u => exact ih (throughout_of_get? hdict hw hget) (get? base key)
      | none => simp
    · have hnone : ¬(old.bind (·.at? (key :: path)) = some v ∧ w.Lacks (key :: path)) := by
        rintro ⟨hat, hlacks⟩
        rcases hleaf with hold | hleaf
        · obtain ⟨b, rfl, hb⟩ := Option.bind_eq_some_iff.mp hat
          rw [at?_cons_of_leaf hold] at hb
          cases hb
        · exact not_lacks_of_leaf hleaf _ hlacks
      rw [heq, or_iff_left hnone]

/-- Where there is a mapping at a path, its keys are the old ones in their order, followed by those
that come from above and are new. -/
theorem keysAt_overlay (hw : w.Throughout Distinct) (old : Option Value) (path : List Value)
    (h : (overlay old w).mappingAt? path ≠ none) :
    (overlay old w).keysAt path = (old.elim [] (·.keysAt path)) ++
      (w.keysAt path).filter fun key => !(old.elim [] (·.keysAt path)).any (·.sameKey key) := by
  induction path generalizing old w with
  | nil =>
    rcases overlay_cases old w with ⟨base, override, hold, hdict, heq⟩ | ⟨heq, hleaf⟩
    · obtain ⟨b, rfl, hbase⟩ := Option.bind_eq_some_iff.mp hold
      rw [heq, keysAt_nil rfl, keysAt_nil hdict, Option.elim_some, keysAt_nil hbase,
        keys_merge ((throughout_of_dict? hdict).mp hw).1]
      simp only [has_eq]
    · rw [heq] at h
      rw [heq, keysAt_of_no_mapping (hleaf.resolve_right (mappingAt?_ne_none h))]
      simp
  | cons key path ih =>
    rcases overlay_cases old w with ⟨base, override, hold, hdict, heq⟩ | ⟨heq, hleaf⟩
    · obtain ⟨b, rfl, hbase⟩ := Option.bind_eq_some_iff.mp hold
      have hdistinct := ((throughout_of_dict? hdict).mp hw).1
      rw [heq, mappingAt?_cons_of_dict? rfl, get?_merge hdistinct] at h
      rw [heq, keysAt_cons_of_dict? rfl, keysAt_cons_of_dict? hdict, Option.elim_some,
        keysAt_cons_of_dict? hbase, get?_merge hdistinct]
      cases hget : get? override key with
      | some u =>
        rw [hget] at h
        exact ih (throughout_of_get? hdict hw hget) (get? base key) h
      | none => simp
    · rw [heq] at h
      rw [heq, keysAt_of_no_mapping (hleaf.resolve_right (mappingAt?_ne_none h))]
      simp

end Paths

/-! ## Once more -/

section Again

variable {base override entries : Entries} {old : Option Value} {w : Value}

/-- Entries that are laid over a mapping leave it as it is if each of them does. -/
theorem merge_of_absorbed
    (h : ∀ e ∈ entries, ∃ v, get? base e.1 = some v ∧ overlay (some v) e.2 = v) :
    merge base entries = base := by
  induction entries with
  | nil => rfl
  | cons e rest ih =>
    obtain ⟨key, v⟩ := e
    obtain ⟨⟨u, hget, hlaid⟩, hrest⟩ := List.forall_mem_cons.mp h
    rw [merge, hget, hlaid, put_of_get? hget, ih hrest]

theorem overlay_again (hplain : w.plain = w) (hw : w.Throughout Keyed) (old : Option Value) :
    overlay (some (overlay old w)) w = overlay old w := by
  induction w using dict_induction generalizing old with
  | step w ih =>
    have hinside {entries : Entries} (hdict : w.dict? = some entries) : Keyed entries ∧
        ∀ e ∈ entries, ∀ old, overlay (some (overlay old e.2)) e.2 = overlay old e.2 := by
      obtain ⟨hkeyed, hkeys⟩ := (throughout_of_dict? hdict).mp hw
      exact ⟨hkeyed, fun e he =>
        ih entries hdict e he (plain_inside hplain hdict e he) (hkeys e he)⟩
    rcases overlay_cases old w with ⟨base, override, hold, hdict, heq⟩ | ⟨heq, hleaf⟩
    · obtain ⟨hkeyed, hvalues⟩ := hinside hdict
      rw [heq, overlay_dict rfl hdict]
      refine congrArg Value.dict (merge_of_absorbed fun e he =>
        ⟨_, ?_, hvalues e he (get? base e.1)⟩)
      rw [get?_merge hkeyed.distinct, hkeyed.get?_of_mem he]
      rfl
    · rw [heq]
      cases hdict : w.dict? with
      | none => exact overlay_of_value hdict _
      | some entries =>
        obtain ⟨hkeyed, hvalues⟩ := hinside hdict
        obtain rfl := dict_of_plain hplain hdict
        rw [overlay_dict rfl rfl]
        refine congrArg Value.dict (merge_of_absorbed fun e he => ⟨_, hkeyed.get?_of_mem he, ?_⟩)
        have hnone : overlay none e.2 = e.2 := overlay_of_old rfl e.2
        have hvalue := hvalues e he none
        rwa [hnone] at hvalue

theorem overlay_self (hplain : w.plain = w) (hw : w.Throughout Keyed) :
    overlay (some w) w = w := by
  have hnone : overlay none w = w := overlay_of_old rfl w
  have hagain := overlay_again hplain hw none
  rwa [hnone] at hagain

theorem keyed_merge (hbase : Keyed base) (hover : Keyed override) :
    Keyed (merge base override) where
  distinct := distinct_merge hbase.distinct override
  found e he := by
    have hkey : e.1 ∈ (merge base override).map (·.1) := List.mem_map_of_mem he
    rw [keys_merge hover.distinct, List.mem_append] at hkey
    rcases hkey with hkey | hkey
    · obtain ⟨f, hf, hfe⟩ := List.mem_map.mp hkey
      exact hfe ▸ hbase.found f hf
    · obtain ⟨f, hf, hfe⟩ := List.mem_map.mp (List.mem_of_mem_filter hkey)
      exact hfe ▸ hover.found f hf

/-- The keys of what comes out bring nothing new. -/
theorem keys_merge_merge (hbase : Keyed base) (hover : Keyed override) :
    (merge base (merge base override)).map (·.1) = (merge base override).map (·.1) := by
  have hold : (base.map (·.1)).filter (fun key => !base.has key) = [] := by
    refine List.filter_eq_nil_iff.mpr fun key hkey => ?_
    obtain ⟨e, he, rfl⟩ := List.mem_map.mp hkey
    rw [has_of_mem he (hbase.found e he)]
    decide
  rw [keys_merge (distinct_merge hbase.distinct override), keys_merge hover.distinct,
    List.filter_append, hold, List.nil_append, List.filter_filter]
  simp only [Bool.and_self]

/-- What comes out can be laid over the mapping below again, if that changes none of its values. -/
theorem merge_result (hbase : Keyed base) (hover : Keyed override)
    (hlaid : ∀ key v, get? (merge base override) key = some v → overlay (get? base key) v = v) :
    merge base (merge base override) = merge base override := by
  have hmerged := keyed_merge hbase hover
  refine (keyed_merge hbase hmerged).eq_of_get? (keys_merge_merge hbase hover) fun e _ => ?_
  rw [get?_merge hmerged.distinct]
  cases hget : get? (merge base override) e.1 with
  | some v => rw [Option.map_some, Option.some_or, hlaid _ _ hget]
  | none =>
    rw [get?_merge hover.distinct, Option.or_eq_none_iff] at hget
    rw [hget.2]
    rfl

/-- What comes out of laying a value over an old one changes nothing when it is laid over that. -/
theorem overlay_result (hw : w.Throughout Keyed)
    (hold : ∀ b, old = some b → b.plain = b ∧ b.Throughout Keyed) :
    overlay old (overlay old w) = overlay old w := by
  induction w using dict_induction generalizing old with
  | step w ih =>
    rcases overlay_cases old w with ⟨base, override, hdict, hover, heq⟩ | ⟨heq, -⟩
    · obtain ⟨b, rfl, hb⟩ := Option.bind_eq_some_iff.mp hdict
      obtain ⟨hplain, hthroughout⟩ := hold b rfl
      obtain ⟨hbase, hlower⟩ := (throughout_of_dict? hb).mp hthroughout
      obtain ⟨hkeyed, hupper⟩ := (throughout_of_dict? hover).mp hw
      have hvalue {key u : Value} (hu : get? base key = some u) :
          u.plain = u ∧ u.Throughout Keyed := by
        obtain ⟨e, he, rfl⟩ := mem_of_get? hu
        exact ⟨plain_inside hplain hb e he, hlower e he⟩
      rw [heq, overlay_dict hdict rfl]
      refine congrArg Value.dict (merge_result hbase hkeyed fun key v hv => ?_)
      rw [get?_merge hkeyed.distinct] at hv
      cases hget : get? override key with
      | some u =>
        obtain ⟨e, he, rfl⟩ := mem_of_get? hget
        rw [hget, Option.map_some, Option.some_or, Option.some_inj] at hv
        rw [← hv, ih override hover e he (hupper e he) fun b hb => hvalue hb]
      | none =>
        rw [hget, Option.map_none, Option.none_or] at hv
        rw [hv, overlay_self (hvalue hv).1 (hvalue hv).2]
    · rw [heq, heq]

/-- Apart from the marks of shared objects, laying a mapping over a result once more changes
nothing. -/
theorem merge_again (h : (Value.dict override).Throughout Keyed) (base : Entries) :
    plainEntries (merge (merge base override) override) = plainEntries (merge base override) := by
  have hagain := overlay_again (plain_plain _) (throughout_plain h)
    (some (.dict (plainEntries base)))
  rw [plain, overlay_dict rfl rfl, overlay_dict rfl rfl, Value.dict.injEq] at hagain
  rwa [plainEntries_merge, plainEntries_merge]

/-- Apart from the marks of shared objects, laying a result over the mapping below changes nothing.
-/
theorem merge_under (hbase : (Value.dict base).Throughout Keyed)
    (hover : (Value.dict override).Throughout Keyed) :
    plainEntries (merge base (merge base override)) = plainEntries (merge base override) := by
  have hresult := @overlay_result (some (Value.dict base).plain) _ (throughout_plain hover)
    fun b hb => Option.some.inj hb ▸ ⟨plain_plain _, throughout_plain hbase⟩
  rw [plain, plain, overlay_dict rfl rfl, overlay_dict rfl rfl, Value.dict.injEq] at hresult
  rwa [plainEntries_merge, plainEntries_merge]

end Again

/-- Merging two mappings. A value that is no mapping comes from above, or from below where what is
above leads through mappings to a missing key. Keys from below come first, and the mappings that are
merged stay as they are. Merging once more, on either side, changes nothing but the marks of shared
objects. The hypotheses say that what the mappings have for keys are keys: values that can be one, and
no two of a mapping the same. -/
theorem merge_laws {base override : Entries} (h : (Value.dict override).Throughout Distinct) :
    (∀ path v, v.dict? = none → ((Value.dict (merge base override)).at? path = some v ↔
      (Value.dict override).at? path = some v ∨
        (Value.dict base).at? path = some v ∧ (Value.dict override).Lacks path)) ∧
    (∀ path, (Value.dict (merge base override)).mappingAt? path ≠ none →
      (Value.dict (merge base override)).keysAt path = (Value.dict base).keysAt path ++
        ((Value.dict override).keysAt path).filter fun key =>
          !((Value.dict base).keysAt path).any (·.sameKey key)) ∧
    (∀ s b o fuel, Reads (fun _ => True) s (.mapping b) (.dict base) →
      Reads (fun _ => True) s (.mapping o) (.dict override) → depth (.dict override) ≤ fuel →
      ∃ r t, mergeAt fuel b o s = some (r, t) ∧ Extends s t ∧
        Reads (fun _ => True) t (.mapping b) (.dict base) ∧
        Reads (fun _ => True) t (.mapping r) (.dict (merge base override))) ∧
    ((Value.dict base).Throughout Keyed → (Value.dict override).Throughout Keyed →
      plainEntries (merge (merge base override) override) = plainEntries (merge base override) ∧
        plainEntries (merge base (merge base override)) = plainEntries (merge base override)) := by
  have hmerge : overlay (some (.dict base)) (.dict override) = .dict (merge base override) :=
    overlay_dict rfl rfl
  refine ⟨fun path v hv => ?_, fun path hpath => ?_, fun s b o fuel hbase hover hfuel => ?_,
    fun hbase hover => ⟨merge_again hover base, merge_under hbase hover⟩⟩
  · rw [← hmerge]
    exact at?_overlay h hv _ path
  · rw [← hmerge] at hpath ⊢
    exact keysAt_overlay h _ path hpath
  · obtain ⟨r, t, hrun, hextends, hresult⟩ :=
      mergeAt_merges fuel _ s b o base override (fun _ _ => trivial) hbase hover hfuel
    exact ⟨r, t, hrun, hextends, hbase.onward hextends, hresult⟩

/-- A mapping under a key, and a key that is a number. -/
def sampleBase : Entries :=
  [(.str "a", .dict [(.str "x", .int 1), (.str "z", .int 0)]), (.int 1, .str "one")]

/-- The same number as a key again, and a mapping in the place of a number. -/
def sampleOverride : Entries :=
  [(.bool true, .null), (.str "b", .null),
    (.str "a", .dict [(.str "x", .dict []), (.str "y", .int 2)])]

/-- Both mappings, with those inside them. -/
def sampleStore : Store :=
  [[(.str "a", .mapping 1), (.int 1, .value (.str "one"))],
    [(.str "x", .value (.int 1)), (.str "z", .value (.int 0))],
    [(.bool true, .value .null), (.str "b", .value .null), (.str "a", .mapping 3)],
    [(.str "x", .mapping 4), (.str "y", .value (.int 2))], []]

theorem merge_laws_sample :
    (Value.dict (merge sampleBase sampleOverride)).at? [.str "a", .str "z"] = some (.int 0) ∧
      (Value.dict (merge sampleBase sampleOverride)).keysAt [] = [.str "a", .int 1, .str "b"] ∧
      (∃ r t, mergeAt 3 0 2 sampleStore = some (r, t) ∧ Extends sampleStore t ∧
        Reads (fun _ => True) t (.mapping 0) (.dict sampleBase) ∧
        Reads (fun _ => True) t (.mapping r) (.dict (merge sampleBase sampleOverride))) ∧
      plainEntries (merge (merge sampleBase sampleOverride) sampleOverride) =
        plainEntries (merge sampleBase sampleOverride) := by
  have hdistinct : (Value.dict sampleOverride).Throughout Distinct := by
    simp only [sampleOverride, Throughout, ThroughoutAll, and_true]
    decide +kernel
  have hkeyed : (Value.dict sampleBase).Throughout Keyed := by
    simp only [sampleBase, Throughout, ThroughoutAll, and_true]
    exact ⟨⟨by decide +kernel, by decide +kernel⟩, by decide +kernel, by decide +kernel⟩
  have hkeyed' : (Value.dict sampleOverride).Throughout Keyed := by
    simp only [sampleOverride, Throughout, ThroughoutAll, and_true, true_and]
    exact ⟨⟨by decide +kernel, by decide +kernel⟩, ⟨by decide +kernel, by decide +kernel⟩,
      by decide +kernel, by decide +kernel⟩
  have hbase : Reads (fun _ => True) sampleStore (.mapping 0) (.dict sampleBase) :=
    .mapping trivial rfl (.cons
      (.mapping trivial rfl (.cons (.value rfl) (.cons (.value rfl) .nil)))
      (.cons (.value rfl) .nil))
  have hover : Reads (fun _ => True) sampleStore (.mapping 2) (.dict sampleOverride) :=
    .mapping trivial rfl (.cons (.value rfl) (.cons (.value rfl) (.cons
      (.mapping trivial rfl (.cons (.mapping trivial rfl .nil) (.cons (.value rfl) .nil))) .nil)))
  obtain ⟨hvalues, hkeys, hstore, hagain⟩ := @merge_laws sampleBase _ hdistinct
  refine ⟨(hvalues _ _ rfl).mpr (.inr ⟨?_, ?_⟩), (hkeys [] ?_).trans ?_,
    hstore _ 0 2 3 hbase hover ?_, (hagain hkeyed hkeyed').1⟩
  · decide +kernel
  · exact ⟨_, rfl, _, rfl, trivial⟩
  · decide +kernel
  · decide +kernel
  · decide +kernel

end LineJoin.Settings
