import LineJoin.Proofs.Json.Numerals
import LineJoin.Proofs.Json.Strings
import LineJoin.Proofs.Json.Values

/-!
# Reading what was written

A value that came out of a JSON text and whose numbers are integers is read again from what is written
for it, in any layout. Each lemma is about a text that begins with something written: this is read,
and the rest of the text is left. Readers need no more steps than they take characters.
-/

namespace LineJoin.Json

open Entries

/-! ## Values -/

section Values

variable {l : Layout} {depth : Nat} {v : Value} {items : List Value}
  {members : List (Value × Value)} {text rest : List Char} {c : Char} {fuel pos : Nat}

/-- A text begins with a value: this is read, and the rest of the text is left. -/
def ReadsValue (v : Value) (text rest : List Char) : Prop :=
  ∀ fuel pos, text.length ≤ fuel + rest.length →
    ∃ last, readValue plain fuel ⟨text, pos⟩ = .ok (v, ⟨rest, last⟩)

/-- A text begins with the items of an array and its closing bracket. -/
def ReadsItems (items : List Value) (text rest : List Char) : Prop :=
  ∀ fuel pos, text.length ≤ fuel + rest.length →
    ∃ last, readItems plain fuel ⟨text, pos⟩ = .ok (items, ⟨rest, last⟩)

/-- A text begins with the members of an object and its closing brace. -/
def ReadsMembers (members : List (Value × Value)) (text rest : List Char) : Prop :=
  ∀ fuel pos, text.length ≤ fuel + rest.length →
    ∃ last, readMembers plain fuel ⟨text, pos⟩ = .ok (members, ⟨rest, last⟩)

theorem readValue_scalar (hquote : c ≠ '"') (hbracket : c ≠ '[') (hbrace : c ≠ '\x7b') :
    readValue plain (fuel + 1) ⟨c :: text, pos⟩ = readScalar ⟨c :: text, pos⟩ := by
  rw [readValue]
  split
  · rename_i h; cases h; exact absurd rfl hquote
  · rename_i h; cases h; exact absurd rfl hbracket
  · rename_i h; cases h; exact absurd rfl hbrace
  · rfl

theorem readScalar_null (rest : List Char) (pos : Nat) :
    readScalar ⟨"null".toList ++ rest, pos⟩ = .ok (.null, ⟨rest, pos + 4⟩) := by
  rfl

theorem readScalar_bool (b : Bool) (rest : List Char) (pos : Nat) :
    ∃ last, readScalar ⟨(if b then "true" else "false").toList ++ rest, pos⟩ =
      .ok (.bool b, ⟨rest, last⟩) := by
  cases b <;> exact ⟨_, rfl⟩

theorem ReadsValue.length_lt (h : ReadsValue v text rest) : rest.length < text.length := by
  by_contra hle
  obtain ⟨last, hread⟩ := h 0 0 (by omega)
  cases hread

theorem ReadsItems.length_lt (h : ReadsItems items text rest) : rest.length < text.length := by
  by_contra hle
  obtain ⟨last, hread⟩ := h 0 0 (by omega)
  cases hread

theorem ReadsMembers.length_lt (h : ReadsMembers members text rest) :
    rest.length < text.length := by
  by_contra hle
  obtain ⟨last, hread⟩ := h 0 0 (by omega)
  cases hread

theorem stringText_append (cs rest : List Char) :
    stringText cs ++ rest = '"' :: (cs.flatMap escapeChar ++ '"' :: rest) := by
  simp [stringText]

theorem readsValue_str (s : String) (rest : List Char) :
    ReadsValue (.str s) (stringText s.toList ++ rest) rest := by
  intro fuel pos hfuel
  have hlength := length_le_flatMap_escapeChar s.toList
  rw [stringText_append] at hfuel ⊢
  simp only [List.length_cons, List.length_append] at hfuel
  obtain ⟨fuel, rfl⟩ : ∃ n, fuel = n + 1 := ⟨fuel - 1, by omega⟩
  have hchars : s.toList.length < fuel := by omega
  obtain ⟨last, hread⟩ := readString_text pos s.toList rest hchars (pos + 1)
  refine ⟨last, ?_⟩
  rw [readValue]
  change (readString pos fuel ⟨s.toList.flatMap escapeChar ++ '"' :: rest, pos + 1⟩ >>= _) = _
  rw [hread]
  exact congrArg (fun t => Except.ok (Value.str t, _)) (textOf_toNat s)

/-- The first character of a value. -/
def StartsValue (c : Char) : Prop := isSpace c = false ∧ c ≠ ']' ∧ c ≠ '\uFEFF'

/-- A value is read again from what is written for it at a depth. -/
structure ReadsBack (l : Layout) (depth : Nat) (v : Value) : Prop where
  head : ∀ rest, ∃ c text, writeOnto l depth v rest = c :: text ∧ StartsValue c
  reads : ∀ rest, Delimited rest → ReadsValue v (writeOnto l depth v rest) rest

/-- The first character of what is written for a value that is no string, array or object. -/
def StartsScalar (c : Char) : Prop := StartsValue c ∧ c ∉ ['"', '[', '\x7b']

theorem readsBack_scalar {written : List Char} {c : Char} {text : List Char}
    (hwritten : ∀ rest, writeOnto l depth v rest = written ++ rest) (htext : written = c :: text)
    (hc : StartsScalar c) (hread : ∀ rest pos, Delimited rest →
      ∃ last, readScalar ⟨written ++ rest, pos⟩ = .ok (v, ⟨rest, last⟩)) :
    ReadsBack l depth v := by
  obtain ⟨hstarts, hc⟩ := hc
  simp only [List.mem_cons, List.not_mem_nil, or_false, not_or] at hc
  obtain ⟨hquote, hbracket, hbrace⟩ := hc
  subst htext
  refine ⟨fun rest => ⟨c, text ++ rest, hwritten rest, hstarts⟩,
    fun rest hrest fuel pos hfuel => ?_⟩
  rw [hwritten] at hfuel ⊢
  simp only [List.cons_append, List.length_cons, List.length_append] at hfuel ⊢
  obtain ⟨fuel, rfl⟩ : ∃ n, fuel = n + 1 := ⟨fuel - 1, by omega⟩
  rw [readValue_scalar hquote hbracket hbrace]
  exact hread rest pos hrest

theorem readsBack_null (l : Layout) (depth : Nat) : ReadsBack l depth .null := by
  have hwritten (rest : List Char) : writeOnto l depth .null rest = "null".toList ++ rest := by
    rw [writeOnto]
  exact readsBack_scalar hwritten rfl ⟨⟨by decide, by decide⟩, by decide⟩
    fun rest pos _ => ⟨_, readScalar_null rest pos⟩

theorem readsBack_bool (l : Layout) (depth : Nat) (b : Bool) : ReadsBack l depth (.bool b) := by
  have hwritten (rest : List Char) : writeOnto l depth (.bool b) rest =
      (if b then "true" else "false").toList ++ rest := by rw [writeOnto]
  cases b with
  | false =>
    exact readsBack_scalar hwritten rfl ⟨⟨by decide, by decide⟩, by decide⟩
      fun rest pos _ => readScalar_bool false rest pos
  | true =>
    exact readsBack_scalar hwritten rfl ⟨⟨by decide, by decide⟩, by decide⟩
      fun rest pos _ => readScalar_bool true rest pos

theorem startsScalar_of_isDigit (h : isDigit c = true) : StartsScalar c := by
  refine ⟨⟨Bool.eq_false_iff.mpr fun hspace => ?_, ?_, ?_⟩, fun hc => ?_⟩
  · simp only [isSpace, Bool.or_eq_true, beq_iff_eq] at hspace
    rcases hspace with ((rfl | rfl) | rfl) | rfl <;> exact absurd h (by decide)
  · rintro rfl
    exact absurd h (by decide)
  · rintro rfl
    exact absurd h (by decide)
  · simp only [List.mem_cons, List.not_mem_nil, or_false] at hc
    rcases hc with rfl | rfl | rfl <;> exact absurd h (by decide)

theorem readsBack_int (l : Layout) (depth : Nat) {n : Int}
    (hlength : (decimalDigits n.natAbs).length ≤ digitLimit) : ReadsBack l depth (.int n) := by
  obtain ⟨c, text, htext, hc⟩ := intText_head n []
  rw [List.append_nil] at htext
  refine readsBack_scalar (fun rest => by rw [writeOnto]) htext ?_
    fun rest pos hrest => readScalar_int hrest hlength pos
  rcases hc with hc | ⟨rfl, -⟩
  · exact startsScalar_of_isDigit hc
  · exact ⟨⟨by decide, by decide⟩, by decide⟩

theorem readsBack_str (l : Layout) (depth : Nat) (s : String) : ReadsBack l depth (.str s) where
  head rest := ⟨'"', _, by rw [writeOnto, stringText_append], by decide, by decide⟩
  reads rest _ := by
    rw [writeOnto]
    exact readsValue_str s rest

/-! ### Arrays -/

section Items

variable {ws more : List Char}

theorem ReadsItems.single (hws : ∀ c ∈ ws, isSpace c = true)
    (h : ReadsValue v text (ws ++ ']' :: rest)) : ReadsItems [v] text rest := by
  intro fuel pos hfuel
  have hlt := h.length_lt
  simp only [List.length_append, List.length_cons] at hlt
  obtain ⟨fuel, rfl⟩ : ∃ n, fuel = n + 1 := ⟨fuel - 1, by omega⟩
  obtain ⟨last, hread⟩ := h fuel pos (by simp only [List.length_append, List.length_cons]; omega)
  refine ⟨last + ws.length + 1, ?_⟩
  rw [readItems, hread, ok_bind]
  dsimp only
  rw [skipSpace_append hws (by decide)]
  rfl

theorem ReadsItems.cons (hws : ∀ c ∈ ws, isSpace c = true) (hc : isSpace c = false)
    (h : ReadsValue v text (',' :: ws ++ c :: more)) (hrest : ReadsItems items (c :: more) rest) :
    ReadsItems (v :: items) text rest := by
  intro fuel pos hfuel
  have hlt := h.length_lt
  have hlt' := hrest.length_lt
  simp only [List.length_append, List.length_cons] at hlt hlt'
  obtain ⟨fuel, rfl⟩ : ∃ n, fuel = n + 1 := ⟨fuel - 1, by omega⟩
  obtain ⟨mid, hread⟩ := h fuel pos (by simp only [List.length_append, List.length_cons]; omega)
  obtain ⟨last, hread'⟩ := hrest fuel (mid + 1 + ws.length) (by rw [List.length_cons]; omega)
  refine ⟨last, ?_⟩
  rw [readItems, hread, ok_bind, List.cons_append]
  dsimp only
  rw [skipSpace_cons (by decide)]
  change (readItems plain fuel (Input.skipSpace ⟨ws ++ c :: more, mid + 1⟩) >>= _) = _
  rw [skipSpace_append hws hc, hread']
  rfl

end Items

theorem delimited_cons (h : c = ',' ∨ c = ']' ∨ c = '\x7d' ∨ isSpace c = true)
    (text : List Char) : Delimited (c :: text) := fun c' hc' => by
  obtain rfl := Option.some.inj hc'
  exact h

theorem delimited_append {ws : List Char} (hws : ∀ c ∈ ws, isSpace c = true)
    (h : Delimited rest) : Delimited (ws ++ rest) := by
  cases ws with
  | nil => exact h
  | cons c ws => exact delimited_cons (.inr (.inr (.inr (hws c List.mem_cons_self)))) _

/-- The items of an array are read from what is written for them. -/
theorem readsItems_writeItems {ws : List Char} (hws : ∀ c ∈ ws, isSpace c = true)
    (hv : ReadsBack l depth v) (hitems : ∀ w ∈ items, ReadsBack l depth w) (rest : List Char) :
    ReadsItems (v :: items)
      (writeOnto l depth v (writeItems l depth items (ws ++ ']' :: rest))) rest := by
  induction items generalizing v with
  | nil =>
    rw [writeItems]
    exact .single hws (hv.reads _ (delimited_append hws (delimited_cons (.inr (.inl rfl)) _)))
  | cons w items ih =>
    obtain ⟨hw, hitems⟩ := List.forall_mem_cons.mp hitems
    have hrest := ih hw hitems
    obtain ⟨c, text, htext, hc, -⟩ :=
      hw.head (writeItems l depth items (ws ++ ']' :: rest))
    obtain ⟨ws', hlead, hws'⟩ := lead_eq l depth
    rw [htext] at hrest
    rw [writeItems, hlead, htext]
    exact .cons hws' hc (hv.reads _ (delimited_cons (.inl rfl) _)) hrest

theorem readValue_items {first : Input} (hfirst : Input.skipSpace ⟨text, pos + 1⟩ = first)
    (hne : ∀ more, first.rest ≠ ']' :: more) :
    readValue plain (fuel + 1) ⟨'[' :: text, pos⟩ =
      (readItems plain fuel first).map fun p => (Value.list p.1, p.2) := by
  rw [readValue]
  split
  · rename_i h; cases h
  · have hskip : (Input.drop ⟨'[' :: text, pos⟩ 1).skipSpace = first := hfirst
    rw [hskip]
    dsimp only
    split
    · rename_i h
      exact absurd h (hne _)
    · cases readItems plain fuel first <;> rfl
  · rename_i h; cases h
  · rename_i hnot h
    exact absurd rfl (hnot _)

theorem readsBack_list (hitems : ∀ w ∈ items, ReadsBack l (depth + 1) w) :
    ReadsBack l depth (.list items) := by
  cases items with
  | nil =>
    refine ⟨fun rest => ⟨'[', ']' :: rest, by rw [writeOnto], by decide, by decide⟩,
      fun rest _ fuel pos hfuel => ?_⟩
    rw [writeOnto] at hfuel ⊢
    simp only [List.length_cons] at hfuel
    obtain ⟨fuel, rfl⟩ : ∃ n, fuel = n + 1 := ⟨fuel - 1, by omega⟩
    exact ⟨pos + 2, rfl⟩
  | cons v items =>
    obtain ⟨hv, hitems⟩ := List.forall_mem_cons.mp hitems
    refine ⟨fun rest => ⟨'[', _, by rw [writeOnto, List.cons_append], by decide, by decide⟩,
      fun rest _ fuel pos hfuel => ?_⟩
    have hread := readsItems_writeItems (isSpace_close l depth) hv hitems rest
    obtain ⟨c, text, htext, hc, hbracket, -⟩ :=
      hv.head (writeItems l (depth + 1) items (l.close depth ++ ']' :: rest))
    rw [htext] at hread
    have hlt := hread.length_lt
    rw [writeOnto, htext] at hfuel ⊢
    simp only [List.length_cons, List.length_append] at hfuel hlt
    obtain ⟨fuel, rfl⟩ : ∃ n, fuel = n + 1 := ⟨fuel - 1, by omega⟩
    obtain ⟨last, hread⟩ := hread fuel (pos + 1 + (l.lead (depth + 1) true).length)
      (by rw [List.length_cons]; omega)
    refine ⟨last, ?_⟩
    have hfirst : Input.skipSpace ⟨l.lead (depth + 1) true ++ c :: text, pos + 1⟩ =
        ⟨c :: text, pos + 1 + (l.lead (depth + 1) true).length⟩ :=
      skipSpace_append (isSpace_lead l _) hc (pos + 1)
    rw [List.cons_append, readValue_items hfirst fun _ h => hbracket (List.cons.inj h).1, hread]
    rfl

/-! ### Objects -/

section Members

variable {ws more : List Char} {name : String}

/-- What is read after a member of an object. -/
def readAfterMember (fuel : Nat) (member : Value × Value) (next : Input) :
    Except Fault (List (Value × Value) × Input) :=
  match next.rest with
  | '\x7d' :: _ => return ([member], next.drop 1)
  | ',' :: _ => do
    let (members, last) ← readMembers plain fuel (next.drop 1).skipSpace
    return (member :: members, last)
  | _ => fail .expectingComma next.position

theorem readMembers_member (name : String) (hc : isSpace c = false)
    (h : ReadsValue v (c :: text) more)
    (hfuel : (stringText name.toList ++ ':' :: ' ' :: c :: text).length ≤
      fuel + 1 + more.length + 1) (pos : Nat) :
    ∃ last, readMembers plain (fuel + 1) ⟨stringText name.toList ++ ':' :: ' ' :: c :: text, pos⟩ =
      readAfterMember fuel (.str name, v) (Input.skipSpace ⟨more, last⟩) := by
  have hlength := length_le_flatMap_escapeChar name.toList
  rw [stringText_append] at hfuel ⊢
  simp only [List.length_cons, List.length_append] at hfuel
  have hlt := h.length_lt
  rw [List.length_cons] at hlt
  have hchars : name.toList.length < fuel := by omega
  obtain ⟨mid, hname⟩ :=
    readString_text pos name.toList (':' :: ' ' :: c :: text) hchars (pos + 1)
  obtain ⟨last, hread⟩ := h fuel (mid + 1 + [' '].length) (by rw [List.length_cons]; omega)
  refine ⟨last, ?_⟩
  rw [readMembers]
  change (readString pos fuel
    ⟨name.toList.flatMap escapeChar ++ '"' :: ':' :: ' ' :: c :: text, pos + 1⟩ >>= _) = _
  rw [hname, ok_bind]
  dsimp only
  rw [skipSpace_cons (by decide)]
  change (readValue plain fuel (Input.skipSpace ⟨[' '] ++ c :: text, mid + 1⟩) >>= _) = _
  rw [skipSpace_append (List.forall_mem_singleton.mpr rfl) hc, hread, ok_bind, plain, textOf_toNat]
  rfl

theorem ReadsMembers.single (hws : ∀ c ∈ ws, isSpace c = true) (hc : isSpace c = false)
    (h : ReadsValue v (c :: text) (ws ++ '\x7d' :: rest)) :
    ReadsMembers [(.str name, v)] (stringText name.toList ++ ':' :: ' ' :: c :: text) rest := by
  intro fuel pos hfuel
  have hlt := h.length_lt
  simp only [List.length_append, List.length_cons] at hfuel hlt
  obtain ⟨fuel, rfl⟩ : ∃ n, fuel = n + 1 := ⟨fuel - 1, by omega⟩
  have hlength : (stringText name.toList ++ ':' :: ' ' :: c :: text).length ≤
      fuel + 1 + (ws ++ '\x7d' :: rest).length + 1 := by
    simp only [List.length_append, List.length_cons]
    omega
  obtain ⟨mid, hread⟩ := readMembers_member name hc h hlength pos
  refine ⟨mid + ws.length + 1, ?_⟩
  rw [hread, skipSpace_append hws (by decide)]
  rfl

theorem ReadsMembers.cons {c' : Char} (hws : ∀ c ∈ ws, isSpace c = true) (hc : isSpace c = false)
    (hc' : isSpace c' = false) (h : ReadsValue v (c :: text) (',' :: ws ++ c' :: more))
    (hrest : ReadsMembers members (c' :: more) rest) :
    ReadsMembers ((.str name, v) :: members)
      (stringText name.toList ++ ':' :: ' ' :: c :: text) rest := by
  intro fuel pos hfuel
  have hlt := h.length_lt
  have hlt' := hrest.length_lt
  simp only [List.length_append, List.length_cons] at hfuel hlt hlt'
  obtain ⟨fuel, rfl⟩ : ∃ n, fuel = n + 1 := ⟨fuel - 1, by omega⟩
  have hlength : (stringText name.toList ++ ':' :: ' ' :: c :: text).length ≤
      fuel + 1 + (',' :: ws ++ c' :: more).length + 1 := by
    simp only [List.length_append, List.length_cons]
    omega
  obtain ⟨mid, hread⟩ := readMembers_member name hc h hlength pos
  obtain ⟨last, hread'⟩ := hrest fuel (mid + 1 + ws.length) (by rw [List.length_cons]; omega)
  refine ⟨last, ?_⟩
  rw [hread, List.cons_append, skipSpace_cons (by decide)]
  change (readMembers plain fuel (Input.skipSpace ⟨ws ++ c' :: more, mid + 1⟩) >>= _) = _
  rw [skipSpace_append hws hc', hread']
  rfl

theorem writeMember_str (l : Layout) (depth : Nat) (name : String) (v : Value) (rest : List Char) :
    writeMember l depth (.str name, v) rest =
      stringText name.toList ++ ':' :: ' ' :: writeOnto l depth v rest := by
  rw [writeMember]
  rfl

/-- The members of an object are read from what is written for them. -/
theorem readsMembers_writeMembers (name : String) (hws : ∀ c ∈ ws, isSpace c = true)
    (hv : ReadsBack l depth v) (hnames : ∀ e ∈ members, ∃ name, e.1 = .str name)
    (hmembers : ∀ e ∈ members, ReadsBack l depth e.2) (rest : List Char) :
    ReadsMembers ((.str name, v) :: members) (writeMember l depth (.str name, v)
      (writeMembers l depth members (ws ++ '\x7d' :: rest))) rest := by
  rw [writeMember_str]
  induction members generalizing name v with
  | nil =>
    have hread := hv.reads (ws ++ '\x7d' :: rest)
      (delimited_append hws (delimited_cons (.inr (.inr (.inl rfl))) _))
    obtain ⟨c, text, htext, hc, -⟩ := hv.head (ws ++ '\x7d' :: rest)
    rw [htext] at hread
    rw [writeMembers, htext]
    exact .single hws hc hread
  | cons e members ih =>
    obtain ⟨key, w⟩ := e
    obtain ⟨⟨name', rfl⟩, hnames'⟩ := List.forall_mem_cons.mp hnames
    obtain ⟨hw, hmembers'⟩ := List.forall_mem_cons.mp hmembers
    have hrest := ih name' hw hnames' hmembers'
    obtain ⟨ws', hlead, hws'⟩ := lead_eq l depth
    have hread := hv.reads (writeMembers l depth ((.str name', w) :: members) (ws ++ '\x7d' :: rest))
    rw [writeMembers, hlead, writeMember_str, stringText_append] at hread
    obtain ⟨c, text, htext, hc, -⟩ :=
      hv.head (writeMembers l depth ((.str name', w) :: members) (ws ++ '\x7d' :: rest))
    rw [writeMembers, hlead, writeMember_str, stringText_append] at htext
    rw [htext] at hread
    rw [stringText_append] at hrest
    rw [writeMembers, hlead, writeMember_str, stringText_append name'.toList, htext]
    exact .cons hws' hc (by decide) (hread (delimited_cons (.inl rfl) _)) hrest

theorem readValue_members {first : Input} (hfirst : Input.skipSpace ⟨text, pos + 1⟩ = first)
    (hne : ∀ more, first.rest ≠ '\x7d' :: more) :
    readValue plain (fuel + 1) ⟨'\x7b' :: text, pos⟩ =
      (readMembers plain fuel first).map fun p => (Value.dict (ofPairs p.1), p.2) := by
  rw [readValue]
  split
  · rename_i h; cases h
  · rename_i h; cases h
  · have hskip : (Input.drop ⟨'\x7b' :: text, pos⟩ 1).skipSpace = first := hfirst
    rw [hskip]
    dsimp only
    split
    · rename_i h
      exact absurd h (hne _)
    · cases readMembers plain fuel first <;> rfl
  · rename_i hbrace
    exact absurd rfl (hbrace _)

theorem ofPairs_eq {entries : Entries} (h : Distinct entries) : ofPairs entries = entries := by
  suffices ∀ done : Entries, Distinct (done ++ entries) →
      entries.foldl (fun entries p => Entries.put p.1 p.2 entries) done = done ++ entries from
    this [] h
  induction entries with
  | nil => exact fun done _ => (List.append_nil done).symm
  | cons e rest ih =>
    intro done hdone
    have hnew : ∀ f ∈ done, f.1.sameKey e.1 = false := fun f hf =>
      (List.pairwise_append.mp hdone).2.2 f hf e List.mem_cons_self
    rw [List.foldl_cons, put_of_new hnew, ih h.of_cons (done ++ [e]) (by simpa using hdone)]
    simp

theorem readsBack_dict {entries : Entries} (hnames : ∀ e ∈ entries, ∃ name, e.1 = .str name)
    (hdistinct : Distinct entries) (hvalues : ∀ e ∈ entries, ReadsBack l (depth + 1) e.2) :
    ReadsBack l depth (.dict entries) := by
  cases entries with
  | nil =>
    refine ⟨fun rest => ⟨'\x7b', '\x7d' :: rest, by rw [writeOnto], by decide, by decide⟩,
      fun rest _ fuel pos hfuel => ?_⟩
    rw [writeOnto] at hfuel ⊢
    simp only [List.length_cons] at hfuel
    obtain ⟨fuel, rfl⟩ : ∃ n, fuel = n + 1 := ⟨fuel - 1, by omega⟩
    exact ⟨pos + 2, rfl⟩
  | cons e members =>
    obtain ⟨key, v⟩ := e
    obtain ⟨⟨name, rfl⟩, hnames'⟩ := List.forall_mem_cons.mp hnames
    obtain ⟨hv, hvalues'⟩ := List.forall_mem_cons.mp hvalues
    refine ⟨fun rest => ⟨'\x7b', _, by rw [writeOnto, List.cons_append], by decide, by decide⟩,
      fun rest _ fuel pos hfuel => ?_⟩
    have hread := readsMembers_writeMembers name (isSpace_close l depth) hv hnames' hvalues' rest
    rw [writeMember_str, stringText_append] at hread
    have hlt := hread.length_lt
    rw [writeOnto, writeMember_str, stringText_append] at hfuel ⊢
    simp only [List.length_cons, List.length_append] at hfuel hlt
    obtain ⟨fuel, rfl⟩ : ∃ n, fuel = n + 1 := ⟨fuel - 1, by omega⟩
    obtain ⟨last, hread⟩ := hread fuel (pos + 1 + (l.lead (depth + 1) true).length)
      (by simp only [List.length_cons, List.length_append]; omega)
    refine ⟨last, ?_⟩
    rw [List.cons_append, readValue_members
      (skipSpace_append (isSpace_lead l _) (by decide) (pos + 1))
      (fun _ h => absurd (List.cons.inj h).1 (by decide)), hread]
    exact congrArg (fun entries => Except.ok (Value.dict entries, _)) (ofPairs_eq hdistinct)

end Members

end Values

/-! ## Whole texts -/

mutual
/-- All numbers in a value are integers. -/
def integral : Value → Bool
  | .float _ => false
  | .list items => integralAll items
  | .dict entries => integralEntries entries
  | _ => true

def integralAll : List Value → Bool
  | [] => true
  | v :: rest => integral v && integralAll rest

def integralEntries : List (Value × Value) → Bool
  | [] => true
  | (_, v) :: rest => integral v && integralEntries rest
end

theorem integralAll_iff {items : List Value} :
    integralAll items = true ↔ ∀ v ∈ items, integral v = true := by
  induction items with
  | nil => exact ⟨fun _ _ h => absurd h List.not_mem_nil, fun _ => rfl⟩
  | cons v items ih => rw [integralAll, Bool.and_eq_true, ih, List.forall_mem_cons]

theorem integralEntries_iff {entries : Entries} :
    integralEntries entries = true ↔ ∀ e ∈ entries, integral e.2 = true := by
  induction entries with
  | nil => exact ⟨fun _ _ h => absurd h List.not_mem_nil, fun _ => rfl⟩
  | cons e entries ih =>
    obtain ⟨key, v⟩ := e
    rw [integralEntries, Bool.and_eq_true, ih, List.forall_mem_cons]

section Whole

variable {l : Layout} {v : Value}

theorem readsBack_of_stored (h : Stored v) (hv : integral v = true) (depth : Nat) :
    ReadsBack l depth v := by
  induction h generalizing depth with
  | null => exact readsBack_null l depth
  | bool b => exact readsBack_bool l depth b
  | int hlength => exact readsBack_int l depth hlength
  | float x => cases hv
  | str s => exact readsBack_str l depth s
  | list _ ih => exact readsBack_list fun w hw => ih w hw (integralAll_iff.mp hv w hw) _
  | dict hnames hdistinct _ ih =>
    exact readsBack_dict hnames hdistinct fun e he => ih e he (integralEntries_iff.mp hv e he) _

end Whole

section Append

variable (l : Layout)

mutual
/-- What follows a value is not looked at when this is written. -/
theorem writeOnto_append : ∀ (depth : Nat) (v : Value) (text rest : List Char),
    writeOnto l depth v (text ++ rest) = writeOnto l depth v text ++ rest
  | depth, .list [], text, rest => by simp only [writeOnto, List.cons_append]
  | depth, .list (item :: items), text, rest => by
    have hitems := writeItems_append (depth + 1) items (l.close depth ++ ']' :: text) rest
    rw [List.append_assoc, List.cons_append] at hitems
    rw [writeOnto, writeOnto, hitems, writeOnto_append (depth + 1) item]
    simp only [List.cons_append, List.append_assoc]
  | depth, .dict [], text, rest => by simp only [writeOnto, List.cons_append]
  | depth, .dict (member :: members), text, rest => by
    have hmembers := writeMembers_append (depth + 1) members (l.close depth ++ '\x7d' :: text) rest
    rw [List.append_assoc, List.cons_append] at hmembers
    rw [writeOnto, writeOnto, hmembers, writeMember_append (depth + 1) member]
    simp only [List.cons_append, List.append_assoc]
  | depth, .shared _ v, text, rest => by
    rw [writeOnto, writeOnto]
    exact writeOnto_append depth v text rest
  | _, .null, _, _ | _, .bool _, _, _ | _, .int _, _, _ | _, .float _, _, _ | _, .str _, _, _
  | _, .bytes _, _, _ | _, .tuple _, _, _ | _, .set _, _, _ | _, .frozen _, _, _
  | _, .object _, _, _ | _, .rule _, _, _ | _, .day _, _, _ | _, .moment _, _, _ => by
    simp only [writeOnto, List.append_assoc]

theorem writeItems_append : ∀ (depth : Nat) (items : List Value) (text rest : List Char),
    writeItems l depth items (text ++ rest) = writeItems l depth items text ++ rest
  | _, [], _, _ => by rw [writeItems, writeItems]
  | depth, item :: items, text, rest => by
    rw [writeItems, writeItems, writeItems_append depth items, writeOnto_append depth item,
      List.append_assoc]

theorem writeMember_append : ∀ (depth : Nat) (member : Value × Value) (text rest : List Char),
    writeMember l depth member (text ++ rest) = writeMember l depth member text ++ rest
  | depth, (key, v), text, rest => by
    rw [writeMember, writeMember, writeOnto_append depth v]
    simp only [List.cons_append, List.append_assoc]

theorem writeMembers_append : ∀ (depth : Nat) (members : List (Value × Value))
    (text rest : List Char),
    writeMembers l depth members (text ++ rest) = writeMembers l depth members text ++ rest
  | _, [], _, _ => by rw [writeMembers, writeMembers]
  | depth, member :: members, text, rest => by
    rw [writeMembers, writeMembers, writeMembers_append depth members,
      writeMember_append depth member, List.append_assoc]
end

end Append

/-- What is written for a value is read as this value, with blanks behind it or without. -/
theorem read_write {v : Value} (h : Stored v) (hv : integral v = true) (l : Layout)
    {ws : List Char} (hws : ∀ c ∈ ws, isSpace c = true) : read (write l v ++ ws) = .ok v := by
  have hdelimited : Delimited ws := by
    have hnil : Delimited [] := fun c hc => (nomatch hc)
    have happend := delimited_append hws hnil
    rwa [List.append_nil] at happend
  obtain ⟨hhead, hreads⟩ := readsBack_of_stored (l := l) h hv 0
  obtain ⟨c, text, htext, hspace, -, hmark⟩ := hhead ws
  have hread := hreads ws hdelimited
  rw [write, ← writeOnto_append, List.nil_append]
  rw [htext] at hread ⊢
  obtain ⟨last, hread⟩ := hread (2 * (c :: text).length + 2) 0 (by omega)
  unfold read readWith
  split
  · rename_i hcons
    exact absurd (List.cons.inj hcons).1 hmark
  · rw [skipSpace_cons hspace, hread, ok_bind]
    dsimp only
    rw [skipSpace_all hws]
    rfl

end LineJoin.Json
