import LineJoin.Proofs.Settings.Outlines
import LineJoin.Proofs.Value.Paths
import Mathlib.Data.List.TakeWhile

/-!
# The lines of keys

A mapping can be written as an outline, each section as its key with its own mapping below it. In a
mapping with plain keys, none of which comes twice in its section, the search finds the line of each
key by the path to it, and no line for a path that does not lead to a key.
-/

namespace LineJoin.Settings

open Entries Value

/-- A key that its line shows as it is, and that has no mark of a path in it. -/
def isPlainKey (key : String) : Bool :=
  startsKey key.toList && strip key.toList == key.toList &&
    key.toList.all fun c => c != '.' && c != ':' && !isQuote c

namespace Outline

/-- An outline writes out a mapping: fields with a scalar in their line, sections with their mapping
on deeper lines. The text of a scalar can be any. -/
inductive Renders (admits : String → Bool) : Nat → Entries → Outline → Prop
  | done {depth : Nat} : Renders admits depth [] done
  | aside {depth : Nat} {entries : Entries} {line : List Char} {rest : Outline}
      (hline : isPassedOver (strip line) = true) (hrest : Renders admits depth entries rest) :
      Renders admits depth entries (aside line rest)
  | field {depth : Nat} {entries : Entries} {indent : List Char} {key : String} {v : Value}
      {rest : Outline} (hdepth : indent.length = depth) (hindent : indent.all isBlank = true)
      (hkey : admits key = true) (hv : v.dict? = none) (scalar : List Char)
      (hrest : Renders admits depth entries rest) :
      Renders admits depth ((.str key, v) :: entries) (entry indent key (' ' :: scalar) done rest)
  | section {depth inside : Nat} {entries fields : Entries} {indent : List Char} {key : String}
      {inner rest : Outline} (hdepth : indent.length = depth) (hindent : indent.all isBlank = true)
      (hkey : admits key = true) (hinside : depth < inside)
      (hinner : Renders admits inside fields inner) (hrest : Renders admits depth entries rest) :
      Renders admits depth ((.str key, .dict fields) :: entries) (entry indent key [] inner rest)

/-- The paths to the keys of an outline with their lines, in the order of the lines. -/
def keyLines (number : Nat) : Outline → List (List String × Nat)
  | done => []
  | aside _ rest => rest.keyLines (number + 1)
  | entry _ key _ inner rest =>
    ([key], number) :: ((inner.keyLines (number + 1)).map (fun p => (key :: p.1, p.2)) ++
      rest.keyLines (number + 1 + inner.lines.length))

/-- The keys of the outermost mapping of an outline. -/
def keys : Outline → List String
  | done => []
  | aside _ rest => rest.keys
  | entry _ key _ _ rest => key :: rest.keys

variable {admits : String → Bool} {outline : Outline} {depth : Nat} {entries : Entries}

theorem Renders.imp {admits' : String → Bool} (h : Renders admits depth entries outline)
    (himp : ∀ key, admits key = true → admits' key = true) :
    Renders admits' depth entries outline := by
  induction h with
  | done => exact .done
  | aside hline _ ih => exact .aside hline ih
  | field hdepth hindent hkey hv scalar _ ih =>
    exact .field hdepth hindent (himp _ hkey) hv scalar ih
  | «section» hdepth hindent hkey hinside _ _ ihinner ihrest =>
    exact .section hdepth hindent (himp _ hkey) hinside ihinner ihrest

theorem Renders.nested (h : Renders (fun key => startsKey key.toList) depth entries outline) :
    Nested depth outline := by
  induction h with
  | done => exact .done
  | aside hline _ ih => exact .aside hline ih
  | field hdepth hindent hkey _ _ _ ih =>
    exact .entry hdepth hindent hkey (Nat.lt_succ_self _) .done ih
  | «section» hdepth hindent hkey hinside _ _ ihinner ihrest =>
    exact .entry hdepth hindent hkey hinside ihinner ihrest

theorem Renders.keys (h : Renders admits depth entries outline) :
    entries.map (·.1) = outline.keys.map Value.str := by
  induction h with
  | done => rfl
  | aside _ _ ih => exact ih
  | field _ _ _ _ _ _ ih => exact congrArg _ ih
  | «section» _ _ _ _ _ _ _ ih => exact congrArg _ ih

end Outline

/-! ## Plain keys -/

section Keys

variable {key : String} {path : List String}

theorem startsKey_of_isPlainKey (h : isPlainKey key = true) : startsKey key.toList = true := by
  rw [isPlainKey, Bool.and_eq_true, Bool.and_eq_true] at h
  exact h.1.1

theorem trim_of_all_not {p : Char → Bool} {cs : List Char} (h : ∀ c ∈ cs, p c = false) :
    trim p cs = cs := by
  have hdrop : ∀ cs : List Char, (∀ c ∈ cs, p c = false) → cs.dropWhile p = cs
    | [], _ => rfl
    | c :: _, h =>
      List.dropWhile_cons_of_neg (by rw [h c List.mem_cons_self]; exact Bool.false_ne_true)
  rw [trim, dropEnd, hdrop cs h, hdrop _ fun c hc => h c (List.mem_reverse.mp hc),
    List.reverse_reverse]

theorem keyOf_of_isPlainKey (h : isPlainKey key = true) : keyOf key.toList = key.toList := by
  rw [isPlainKey, Bool.and_eq_true, Bool.and_eq_true, beq_iff_eq, List.all_eq_true] at h
  obtain ⟨⟨-, hstrip⟩, hmarks⟩ := h
  simp only [Bool.and_eq_true, Bool.not_eq_true', bne_iff_ne, ne_eq] at hmarks
  have hcolon : key.toList.takeWhile (· != ':') = key.toList :=
    List.takeWhile_eq_self_iff.mpr fun c hc => bne_iff_ne.mpr (hmarks c hc).1.2
  rw [keyOf, hcolon, hstrip, trim_of_all_not fun c hc => (hmarks c hc).2]

theorem cutAt_of_not_mem {α : Type} [BEq α] [LawfulBEq α] {sep : α} {xs : List α} (h : sep ∉ xs) :
    cutAt sep xs = [xs] := by
  induction xs with
  | nil => rfl
  | cons x rest ih =>
    rw [List.mem_cons, not_or] at h
    rw [cutAt, ih h.2, if_neg fun hx => h.1 (beq_iff_eq.mp hx).symm]

theorem cutAt_append_cons {α : Type} [BEq α] [LawfulBEq α] {sep : α} {xs : List α} (h : sep ∉ xs)
    (ys : List α) : cutAt sep (xs ++ sep :: ys) = xs :: cutAt sep ys := by
  induction xs with
  | nil => rw [List.nil_append, cutAt, if_pos (beq_self_eq_true sep)]
  | cons x rest ih =>
    rw [List.mem_cons, not_or] at h
    rw [List.cons_append, cutAt, ih h.2, if_neg fun hx => h.1 (beq_iff_eq.mp hx).symm]

/-- Cutting the joined keys of a path at the dots gives the keys back. -/
theorem cutAt_intercalate (hne : path ≠ []) (hpath : ∀ key ∈ path, '.' ∉ key.toList) :
    cutAt '.' (String.intercalate "." path).toList = path.map String.toList := by
  rw [String.toList_intercalate]
  induction path with
  | nil => exact absurd rfl hne
  | cons key rest ih =>
    obtain ⟨hkey, hrest⟩ := List.forall_mem_cons.mp hpath
    cases rest with
    | nil =>
      rw [List.map_singleton, List.intercalate_singleton]
      exact cutAt_of_not_mem hkey
    | cons next more =>
      have hne : (next :: more).map String.toList ≠ [] := List.cons_ne_nil _ _
      rw [List.map_cons, List.intercalate_cons_of_ne_nil hne, List.append_assoc]
      exact (cutAt_append_cons hkey _).trans (congrArg _ (ih (List.cons_ne_nil _ _) hrest))

end Keys

/-! ## Where the keys stand -/

namespace Outline

section Places

variable {admits : String → Bool} {outline inner rest : Outline} {depth number n m : Nat}
  {entries : Entries} {path : List String} {key : String} {v : Value}

/-- Plain keys are read as they are, and sections are told from fields, so the places of an outline
are the lines of its keys. -/
theorem Renders.places_eq_keyLines (h : Renders isPlainKey depth entries outline)
    (parents : List String) (number : Nat) : outline.places (parents.map String.toList) number =
      (outline.keyLines number).map fun p => ((parents ++ p.1).map String.toList, p.2) := by
  have hpath {key : String} (hkey : isPlainKey key = true) (parents : List String) :
      parents.map String.toList ++ [keyOf key.toList] = (parents ++ [key]).map String.toList := by
    rw [keyOf_of_isPlainKey hkey, List.map_append, List.map_singleton]
  induction h generalizing parents number with
  | done => rfl
  | aside hline hrest ih => exact ih parents (number + 1)
  | field hdepth hindent hkey hv scalar hrest ih =>
    rw [places, keyLines, hpath hkey]
    exact congrArg _ (ih parents _)
  | «section» hdepth hindent hkey hinside hinner hrest ihinner ihrest =>
    have hopens : opens [] = true := rfl
    rw [places, keyLines, hpath hkey, if_pos hopens, ihinner, ihrest]
    simp only [List.map_cons, List.map_append, List.map_map, Function.comp_def, List.append_assoc,
      List.nil_append, List.cons_append]

theorem mem_keyLines_entry {indent after : List Char} :
    (path, n) ∈ (entry indent key after inner rest).keyLines number ↔
      (path = [key] ∧ n = number) ∨ (∃ more, path = key :: more ∧
        (more, n) ∈ inner.keyLines (number + 1)) ∨
      (path, n) ∈ rest.keyLines (number + 1 + inner.lines.length) := by
  rw [keyLines, List.mem_cons, List.mem_append, List.mem_map, Prod.mk.injEq]
  refine or_congr_right (or_congr_left ⟨?_, ?_⟩)
  · rintro ⟨⟨more, m⟩, hmore, heq⟩
    obtain ⟨rfl, rfl⟩ := Prod.mk.inj heq
    exact ⟨more, rfl, hmore⟩
  · rintro ⟨more, rfl, hmore⟩
    exact ⟨(more, n), hmore, rfl⟩

/-- A path in an outline begins with a key of the outermost mapping. -/
theorem mem_keyLines (hp : (path, n) ∈ outline.keyLines number) :
    ∃ key more, path = key :: more ∧ key ∈ outline.keys := by
  induction outline generalizing number with
  | done => exact absurd hp List.not_mem_nil
  | aside line rest ih => exact ih hp
  | entry indent key after inner rest ihinner ihrest =>
    rcases mem_keyLines_entry.mp hp with ⟨rfl, -⟩ | ⟨more, rfl, -⟩ | hp
    · exact ⟨key, [], rfl, List.mem_cons_self⟩
    · exact ⟨key, more, rfl, List.mem_cons_self⟩
    · obtain ⟨other, more, hpath, hother⟩ := ihrest hp
      exact ⟨other, more, hpath, List.mem_cons_of_mem _ hother⟩

/-- A key that is new in its mapping comes with its own paths only. -/
theorem mem_keyLines_entry_cons {indent after : List Char} (hnew : key ∉ rest.keys)
    {other : String} {more : List String} :
    (other :: more, n) ∈ (entry indent key after inner rest).keyLines number ↔
      if other = key then
        (more = [] ∧ n = number) ∨ (more, n) ∈ inner.keyLines (number + 1)
      else (other :: more, n) ∈ rest.keyLines (number + 1 + inner.lines.length) := by
  rw [mem_keyLines_entry]
  split
  · rename_i hkey
    subst hkey
    have hrest : (other :: more, n) ∉ rest.keyLines (number + 1 + inner.lines.length) := by
      intro hp
      obtain ⟨_, _, heq, hmem⟩ := mem_keyLines hp
      exact hnew ((List.cons.inj heq).1 ▸ hmem)
    simp [hrest]
  · rename_i hkey
    simp [hkey]

theorem named?_str_cons (key : String) (v : Value) (rest : Entries) (other : String) :
    get? ((.str key, v) :: rest) (.str other) =
      if other = key then some v else get? rest (.str other) := by
  refine (named?_cons (.str key, v) rest other).trans ?_
  simp only [text?, Option.some_inj, eq_comm]
  rfl

theorem Renders.new (h : Renders admits depth entries rest)
    (hdistinct : Distinct ((.str key, v) :: entries)) : key ∉ rest.keys := by
  intro hkey
  have hmem : Value.str key ∈ entries.map (·.1) := h.keys ▸ List.mem_map_of_mem hkey
  obtain ⟨e, he, heq⟩ := List.mem_map.mp hmem
  have hsame := (List.pairwise_cons.mp hdistinct).1 e he
  rw [heq, sameKey_str, text?, beq_self_eq_true] at hsame
  cases hsame

/-- Lines are given for the paths that lead to a key inside a value, one for each. -/
structure Lists (lines : List (List String × Nat)) (v : Value) : Prop where
  iff : ∀ path, (∃ n, (path, n) ∈ lines) ↔ path ≠ [] ∧ (v.at? (path.map .str)).isSome = true
  unique : ∀ path n m, (path, n) ∈ lines → (path, m) ∈ lines → n = m

theorem lists_nil (hv : ∀ key path, v.at? (key :: path) = none) : Lists [] v where
  iff path := by
    refine ⟨fun ⟨_, h⟩ => absurd h List.not_mem_nil, fun ⟨hne, hsome⟩ => ?_⟩
    cases path with
    | nil => exact absurd rfl hne
    | cons key more =>
      rw [List.map_cons, hv] at hsome
      cases hsome
  unique _ _ _ h := absurd h List.not_mem_nil

theorem Lists.not_mem_nil {lines : List (List String × Nat)} (h : Lists lines v) (n : Nat) :
    ([], n) ∉ lines := fun hn => ((h.iff []).mp ⟨n, hn⟩).1 rfl

theorem nil_not_mem_keyLines (outline : Outline) (number n : Nat) :
    ([], n) ∉ outline.keyLines number := by
  intro hn
  obtain ⟨key, more, hpath, -⟩ := mem_keyLines hn
  cases hpath

theorem lists_entry {indent after : List Char} (hnew : key ∉ rest.keys)
    (hinner : Lists (inner.keyLines (number + 1)) v)
    (hrest : Lists (rest.keyLines (number + 1 + inner.lines.length)) (.dict entries)) :
    Lists ((entry indent key after inner rest).keyLines number)
      (.dict ((.str key, v) :: entries)) where
  iff path := by
    cases path with
    | nil => exact ⟨fun ⟨n, hn⟩ => absurd hn (nil_not_mem_keyLines _ _ n), fun h => absurd rfl h.1⟩
    | cons other more =>
      simp only [mem_keyLines_entry_cons hnew]
      rw [List.map_cons, at?_cons_of_dict? rfl, named?_str_cons]
      by_cases hkey : other = key
      · simp only [if_pos hkey, Option.bind_some]
        cases more with
        | nil => simp [at?]
        | cons next more => simpa using hinner.iff (next :: more)
      · simp only [if_neg hkey]
        rw [hrest.iff, List.map_cons, at?_cons_of_dict? rfl]
  unique path n m hn hm := by
    cases path with
    | nil => exact absurd hn (nil_not_mem_keyLines _ _ n)
    | cons other more =>
      rw [mem_keyLines_entry_cons hnew] at hn hm
      by_cases hkey : other = key
      · rw [if_pos hkey] at hn hm
        rcases hn with ⟨rfl, hn⟩ | hn
        · rcases hm with ⟨-, hm⟩ | hm
          · exact hn.trans hm.symm
          · exact absurd hm (hinner.not_mem_nil m)
        · rcases hm with ⟨rfl, -⟩ | hm
          · exact absurd hn (hinner.not_mem_nil n)
          · exact hinner.unique _ _ _ hn hm
      · rw [if_neg hkey] at hn hm
        exact hrest.unique _ _ _ hn hm

/-- The lines of an outline are listed under the paths of the mapping that it writes out. -/
theorem lists_keyLines (h : Renders admits depth entries outline)
    (hdistinct : (Value.dict entries).Throughout Distinct) (number : Nat) :
    Lists (outline.keyLines number) (.dict entries) := by
  induction h generalizing number with
  | done => exact lists_nil fun _ _ => rfl
  | aside hline hrest ih => exact ih hdistinct _
  | field hdepth hindent hkey hv scalar hrest ih =>
    rw [throughout_of_dict? rfl, List.forall_mem_cons] at hdistinct
    obtain ⟨hkeys, -, hinner⟩ := hdistinct
    exact lists_entry (hrest.new hkeys) (lists_nil (at?_cons_of_leaf hv))
      (ih ((throughout_of_dict? rfl).mpr ⟨hkeys.of_cons, hinner⟩) _)
  | «section» hdepth hindent hkey hinside hinner hrest ihinner ihrest =>
    rw [throughout_of_dict? rfl, List.forall_mem_cons] at hdistinct
    obtain ⟨hkeys, hfields, hinner⟩ := hdistinct
    exact lists_entry (hrest.new hkeys) (ihinner hfields _)
      (ihrest ((throughout_of_dict? rfl).mpr ⟨hkeys.of_cons, hinner⟩) _)

end Places

end Outline

/-! ## The line that is found -/

section Lookup

variable {α β γ : Type} [BEq α] [LawfulBEq α]

theorem lookup_eq_some_iff_mem {l : List (α × β)} {a : α} {b : β}
    (hunique : ∀ b b', (a, b) ∈ l → (a, b') ∈ l → b = b') :
    l.lookup a = some b ↔ (a, b) ∈ l := by
  have hmem {b : β} (h : l.lookup a = some b) : (a, b) ∈ l := by
    obtain ⟨before, after, hl, -⟩ := List.lookup_eq_some_iff.mp h
    rw [hl]
    exact List.mem_append_right _ List.mem_cons_self
  refine ⟨hmem, fun h => ?_⟩
  cases hlookup : l.lookup a with
  | none =>
    have hne := List.lookup_eq_none_iff.mp hlookup (a, b) h
    simp at hne
  | some b' => rw [hunique b' b (hmem hlookup) h]

theorem lookup_map_keys [BEq β] [LawfulBEq β] {f : α → β} (hf : f.Injective)
    (l : List (α × γ)) (a : α) :
    (l.map fun p => (f p.1, p.2)).lookup (f a) = l.lookup a := by
  induction l with
  | nil => rfl
  | cons p rest ih =>
    rw [List.map_cons, List.lookup_cons, List.lookup_cons, ih]
    by_cases h : a = p.1
    · rw [h, beq_self_eq_true, beq_self_eq_true]
    · rw [beq_eq_false_iff_ne.mpr h, beq_eq_false_iff_ne.mpr fun heq => h (hf heq)]

end Lookup

/-- The line found for a path in an outline is the first that is listed under the path. -/
theorem lineOf?_eq_lookup {depth : Nat} {entries : Entries} {outline : Outline}
    (h : outline.Renders isPlainKey depth entries) {path : List String} (hne : path ≠ [])
    (hpath : ∀ key ∈ path, '.' ∉ key.toList) :
    lineOf? (String.intercalate "." path) outline.lines = (outline.keyLines 1).lookup path := by
  have hplaces := h.places_eq_keyLines [] 1
  rw [List.map_nil] at hplaces
  rw [Outline.lineOf?_lines (h.imp fun _ => startsKey_of_isPlainKey).nested,
    cutAt_intercalate hne hpath, hplaces]
  have hinjective : (List.map String.toList).Injective := fun ps qs hpaths =>
    (List.map_inj_right fun _ _ => String.toList_inj.mp).mp hpaths
  exact lookup_map_keys hinjective _ path

/-- In an outline that writes out a mapping with plain keys, none of which comes twice in its
section, the line found for a path is the line of its key, and a line is found just for those paths
that lead to a value of the mapping. -/
theorem lineOf?_outline {depth : Nat} {entries : Entries} {outline : Outline}
    (h : outline.Renders isPlainKey depth entries)
    (hdistinct : (Value.dict entries).Throughout Distinct) {path : List String} (hne : path ≠ [])
    (hpath : ∀ key ∈ path, '.' ∉ key.toList) :
    (∀ n, lineOf? (String.intercalate "." path) outline.lines = some n ↔
      (path, n) ∈ outline.keyLines 1) ∧
    (lineOf? (String.intercalate "." path) outline.lines).isSome =
      ((Value.dict entries).at? (path.map .str)).isSome := by
  have hlists := Outline.lists_keyLines h hdistinct 1
  rw [lineOf?_eq_lookup h hne hpath]
  have hlookup (n : Nat) : (outline.keyLines 1).lookup path = some n ↔
      (path, n) ∈ outline.keyLines 1 := lookup_eq_some_iff_mem (hlists.unique path)
  refine ⟨hlookup, Bool.eq_iff_iff.mpr ?_⟩
  rw [Option.isSome_iff_exists]
  simp only [hlookup]
  rw [hlists.iff, and_iff_right hne]

/-- Sections of several depths, with a key that has the name of a key elsewhere. -/
def sampleEntries : Entries :=
  [(.str "logging", .dict [(.str "console", .dict [(.str "level", .str "INFO")]),
      (.str "level", .str "DEBUG")]),
    (.str "level", .int 3)]

def sampleOutline : Outline :=
  .aside "# Settings".toList <|
  .entry [] "logging" []
    (.entry "  ".toList "console" []
      (.aside "      - a list item".toList <|
        .entry "    ".toList "level" (' ' :: "INFO".toList) .done .done) <|
      .aside "".toList <|
      .entry "  ".toList "level" (' ' :: "DEBUG".toList) .done .done) <|
  .entry [] "level" (' ' :: "3".toList) .done .done

example : sampleOutline.lines = ["# Settings", "logging:", "  console:",
    "      - a list item", "    level: INFO", "", "  level: DEBUG", "level: 3"].map
      String.toList := by decide +kernel

theorem renders_sampleOutline : sampleOutline.Renders isPlainKey 0 sampleEntries := by
  have hlogging : isPlainKey "logging" = true := by decide +kernel
  have hconsole : isPlainKey "console" = true := by decide +kernel
  have hlevel : isPlainKey "level" = true := by decide +kernel
  have hlines : ∀ line ∈ ["# Settings", "      - a list item", ""],
      isPassedOver (strip line.toList) = true := by decide +kernel
  have hfield (indent : List Char) (v : Value) (scalar : List Char)
      (hindent : indent.all isBlank = true) (hv : v.dict? = none) :
      Outline.Renders isPlainKey indent.length [(.str "level", v)]
        (.entry indent "level" (' ' :: scalar) .done .done) :=
    .field rfl hindent hlevel hv scalar .done
  refine .aside (hlines _ (by simp)) (.section rfl rfl hlogging (show 0 < 2 by decide) ?_ ?_)
  · refine .section rfl rfl hconsole (show 2 < 4 by decide) (.aside (hlines _ (by simp)) ?_) ?_
    · exact hfield "    ".toList (.str "INFO") _ rfl rfl
    · exact .aside (hlines _ (by simp)) (hfield "  ".toList (.str "DEBUG") _ rfl rfl)
  · exact hfield [] (.int 3) _ rfl rfl

theorem lineOf?_outline_level :
    lineOf? (String.intercalate "." ["logging", "console", "level"]) sampleOutline.lines = some 5 ∧
      lineOf? (String.intercalate "." ["logging", "level"]) sampleOutline.lines = some 7 ∧
      (lineOf? (String.intercalate "." ["console", "level"]) sampleOutline.lines).isSome =
        false := by
  have hdistinct : (Value.dict sampleEntries).Throughout Distinct := by
    simp only [sampleEntries, Throughout, ThroughoutAll, and_true]
    decide +kernel
  have hfound {path : List String} (hne : path ≠ []) (hpath : ∀ key ∈ path, '.' ∉ key.toList) :=
    lineOf?_outline renders_sampleOutline hdistinct hne hpath
  refine ⟨((hfound ?_ ?_).1 5).mpr ?_, ((hfound ?_ ?_).1 7).mpr ?_, (hfound ?_ ?_).2⟩
  all_goals decide +kernel

end LineJoin.Settings
