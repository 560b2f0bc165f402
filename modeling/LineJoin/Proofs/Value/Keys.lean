import LineJoin.Proofs.Value.Distinct

/-!
# Mapping keys

Two values are the same mapping key if they stand for the same thing: a number counts by its exact
value, a NaN by itself, a moment by its instant, a tuple by its items. So being the same key is
symmetric and transitive. Every value that can be a key is found by itself; lists and other
collections that can change are not even the same key as themselves.
-/

namespace LineJoin

namespace Binary64

/-- An exact number as a rational one. -/
def Exact.ratio (a : Exact) : Rat := mkRat a.signedNum a.den

theorem Exact.eq_iff {a b : Exact} (ha : a.den ≠ 0) (hb : b.den ≠ 0) :
    a.eq b = true ↔ a.ratio = b.ratio := by
  rw [Exact.eq, beq_iff_eq, Exact.ratio, Exact.ratio, Rat.mkRat_eq_iff ha hb]

theorem Exact.signedNum_ofInt (n : Int) : (Exact.ofInt n).signedNum = n := by
  simp only [Exact.signedNum, Exact.ofInt, decide_eq_true_eq]
  omega

end Binary64

open Binary64

/-- What a number stands for. -/
inductive Quantity where
  | finite (ratio : Rat)
  | infinite (negative : Bool)
  | nan (x : Binary64)

/-- What a value stands for as a mapping key. -/
inductive Key where
  | null
  | quantity (q : Quantity)
  | text (s : String)
  | bytes (data : List UInt8)
  | rule (r : Rule)
  | day (d : Day)
  | moment (withOffset : Bool) (instant : Int)
  | tuple (keys : List Key)

namespace Value

def Number.quantity? : Number → Option Quantity
  | .int n => some (.finite (Exact.ofInt n).ratio)
  | .float x =>
    match x.view with
    | .nan => some (.nan x)
    | .infinite s => some (.infinite s)
    | .finite _ _ _ => x.exactValue?.map fun a => .finite a.ratio

mutual
/-- The key that a value is, if it can be found again. -/
def key? : Value → Option Key
  | .null => some .null
  | .str s => some (.text s)
  | .bytes data => some (.bytes data)
  | .rule r => some (.rule r)
  | .day d => some (.day d)
  | .moment m => some (.moment m.offset.isSome m.instant)
  | .tuple items => (keys? items).map .tuple
  | .shared _ v => v.key?
  | .bool b => (Number.int (if b then 1 else 0)).quantity?.map .quantity
  | .int n => (Number.int n).quantity?.map .quantity
  | .float x => (Number.float x).quantity?.map .quantity
  | .list _ | .set _ | .dict _ | .frozen _ | .object _ => none

def keys? : List Value → Option (List Key)
  | [] => some []
  | v :: rest => v.key?.bind fun k => (keys? rest).map (k :: ·)
end

theorem exists_some_iff {α : Type} {a b : α} : (∃ c, some a = some c ∧ some b = some c) ↔ a = b :=
  ⟨fun ⟨_, ha, hb⟩ => Option.some.inj (ha.trans hb.symm), fun h => ⟨a, rfl, congrArg some h.symm⟩⟩

/-- Numbers are the same if they have the same exact value. -/
theorem Number.same_iff (a b : Number) :
    a.same b = true ↔ ∃ k, a.quantity? = some k ∧ b.quantity? = some k := by
  have hone (n : Int) : (Exact.ofInt n).den ≠ 0 := Nat.one_ne_zero
  have htwo (s : Bool) (m n : Nat) : (Exact.mk s m (twoTo n)).den ≠ 0 :=
    Nat.pos_iff_ne_zero.mp (Nat.pow_pos (by decide))
  cases a with
  | int m =>
    cases b with
    | int n =>
      simp only [same, quantity?, exists_some_iff, Quantity.finite.injEq,
        ← Exact.eq_iff (hone m) (hone n), Exact.eq, Exact.signedNum_ofInt]
      simp [Exact.ofInt]
    | float y =>
      cases hy : y.view with
      | finite s n e =>
        simp only [same, quantity?, hy, sameInt, exactValue?, Option.map_some, exists_some_iff,
          Quantity.finite.injEq, Exact.eq_iff (htwo _ _ _) (hone m)]
        exact eq_comm
      | _ => simp [same, quantity?, hy, sameInt, exactValue?]
  | float x =>
    cases b with
    | int n =>
      cases hx : x.view with
      | finite s m e =>
        simp only [same, quantity?, hx, sameInt, exactValue?, Option.map_some, exists_some_iff,
          Quantity.finite.injEq, Exact.eq_iff (htwo _ _ _) (hone n)]
      | _ => simp [same, quantity?, hx, sameInt, exactValue?]
    | float y =>
      by_cases hxy : x = y
      · subst hxy
        cases hx : x.view <;> simp [same, quantity?, hx, exactValue?]
      · have hbits : (x == y) = false := beq_eq_false_iff_ne.mpr hxy
        cases hx : x.view <;> cases hy : y.view <;>
          simp only [same, hbits, Bool.false_or, quantity?, hx, hy, Binary64.same, exactValue?,
            Option.map_some, exists_some_iff, Quantity.finite.injEq, Quantity.infinite.injEq,
            Quantity.nan.injEq, hxy, Exact.eq_iff (htwo _ _ _) (htwo _ _ _), beq_iff_eq,
            reduceCtorEq, Bool.false_eq_true]

theorem key?_unshare : ∀ v : Value, v.unshare.key? = v.key?
  | .shared _ v => by rw [unshare, key?, key?_unshare v]
  | .null | .bool _ | .int _ | .float _ | .str _ | .bytes _ | .list _ | .tuple _ | .set _
  | .dict _ | .frozen _ | .object _ | .rule _ | .day _ | .moment _ => by rfl

theorem exists_map_iff {α β : Type} {f : α → β} (hf : ∀ a b, f a = f b → a = b) {a b : Option α} :
    (∃ c, a.map f = some c ∧ b.map f = some c) ↔ ∃ c, a = some c ∧ b = some c := by
  constructor
  · rintro ⟨c, ha, hb⟩
    obtain ⟨x, rfl, rfl⟩ := Option.map_eq_some_iff.mp ha
    obtain ⟨y, rfl, hy⟩ := Option.map_eq_some_iff.mp hb
    exact ⟨x, rfl, congrArg some (hf _ _ hy)⟩
  · rintro ⟨c, rfl, rfl⟩
    exact ⟨f c, rfl, rfl⟩

mutual
/-- Values are the same key if both are keys and stand for the same thing. -/
theorem sameKey_iff : ∀ v w : Value, v.sameKey w = true ↔ ∃ k, v.key? = some k ∧ w.key? = some k
  | .shared _ v, w => by
    rw [sameKey, key?]
    exact sameKey_iff v w
  | .tuple items, w => by
    rw [sameKey, key?, ← key?_unshare w]
    obtain ⟨u, hu, -, hmark⟩ := w.exists_unmarked
    rw [hu]
    cases u with
    | shared id v => exact absurd rfl (hmark id v)
    | tuple others =>
      rw [key?, exists_map_iff fun _ _ => Key.tuple.inj]
      exact sameKeys_iff items others
    | _ => simp [key?]
  | .null, w | .bytes _, w | .rule _, w | .day _, w | .moment _, w => by
    rw [sameKey, key?, ← key?_unshare w]
    obtain ⟨u, hu, -, hmark⟩ := w.exists_unmarked
    rw [hu]
    cases u with
    | shared id v => exact absurd rfl (hmark id v)
    | moment _ => simp [key?, Moment.same] <;> exact and_congr eq_comm eq_comm
    | _ => simp [key?] <;> exact eq_comm
  | .str _, w => by
    rw [sameKey, key?, ← key?_unshare w, ← text?_plain w]
    obtain ⟨u, hu, hplain, hmark⟩ := w.exists_unmarked
    rw [hu, hplain, text?_plain]
    cases u with
    | shared id v => exact absurd rfl (hmark id v)
    | _ => simp [key?, text?]
  | .bool _, w | .int _, w | .float _, w => by
    rw [← key?_unshare w]
    obtain ⟨u, hu, hplain, hmark⟩ := w.exists_unmarked
    have hnumber : w.number? = u.number? := by rw [← number?_plain, hplain, number?_plain]
    rw [hu]
    simp only [sameKey, hnumber]
    cases u with
    | shared id v => exact absurd rfl (hmark id v)
    | bool _ | int _ | float _ =>
      simp only [number?, key?, Number.same_iff, exists_map_iff fun _ _ => Key.quantity.inj]
    | _ => simp [key?, number?]
  | .list _, _ | .set _, _ | .dict _, _ | .frozen _, _ | .object _, _ => by
    simp [sameKey, number?, key?]

theorem sameKeys_iff : ∀ vs ws : List Value,
    sameKeys vs ws = true ↔ ∃ ks, keys? vs = some ks ∧ keys? ws = some ks
  | [], [] => by simp [sameKeys, keys?]
  | [], w :: ws => by simp [sameKeys, keys?, Option.bind_eq_some_iff]
  | v :: vs, [] => by simp [sameKeys, keys?, Option.bind_eq_some_iff]
  | v :: vs, w :: ws => by
    rw [sameKeys, Bool.and_eq_true, sameKey_iff v w, sameKeys_iff vs ws]
    simp only [keys?, Option.bind_eq_some_iff, Option.map_eq_some_iff]
    constructor
    · rintro ⟨⟨k, hv, hw⟩, ks, hvs, hws⟩
      exact ⟨k :: ks, ⟨k, hv, ks, hvs, rfl⟩, k, hw, ks, hws, rfl⟩
    · rintro ⟨_, ⟨k, hv, ks, hvs, rfl⟩, l, hw, ls, hws, heq⟩
      cases heq
      exact ⟨⟨k, hv, hw⟩, ks, hvs, hws⟩
end

theorem sameKey_comm (v w : Value) : v.sameKey w = w.sameKey v := by
  rw [Bool.eq_iff_iff, sameKey_iff, sameKey_iff]
  exact exists_congr fun _ => And.comm

/-- The same keys are the same as any other. -/
theorem sameKey_congr {v w : Value} (h : v.sameKey w = true) (u : Value) :
    v.sameKey u = w.sameKey u := by
  obtain ⟨k, hv, hw⟩ := (sameKey_iff v w).mp h
  rw [Bool.eq_iff_iff, sameKey_iff, sameKey_iff, hv, hw]

theorem sameKey_congr_right {v w : Value} (h : v.sameKey w = true) (u : Value) :
    u.sameKey v = u.sameKey w := by
  rw [sameKey_comm u v, sameKey_comm u w, sameKey_congr h]

end Value

namespace Entries

open Value

variable {entries : Entries} {key v : Value}

theorem get?_cons (e : Value × Value) (rest : Entries) (key : Value) :
    get? (e :: rest) key = if e.1.sameKey key then some e.2 else get? rest key := by
  rw [get?, List.find?_cons]
  cases e.1.sameKey key <;> rfl

theorem mem_of_get? (h : get? entries key = some v) : ∃ e ∈ entries, e.2 = v := by
  obtain ⟨e, he, rfl⟩ := Option.map_eq_some_iff.mp h
  exact ⟨e, List.mem_of_find?_eq_some he, rfl⟩

/-- A value that is put under a key is found under any key that is the same. -/
theorem get?_put (entries : Entries) (key v other : Value) :
    get? (put key v entries) other =
      if key.sameKey other then some v else get? entries other := by
  induction entries with
  | nil => exact get?_cons (key, v) [] other
  | cons e rest ih =>
    rw [put]
    by_cases he : e.1.sameKey key
    · rw [if_pos he, get?_cons, get?_cons, sameKey_congr he]
      split <;> rfl
    · rw [if_neg he, get?_cons, get?_cons, ih]
      by_cases hother : e.1.sameKey other
      · have hkey : key.sameKey other = false := by
          rw [← sameKey_congr_right hother, sameKey_comm]
          exact Bool.eq_false_iff.mpr he
        rw [if_pos hother, hkey, if_neg Bool.false_ne_true, if_pos hother]
      · rw [if_neg hother, if_neg hother]

theorem put_of_get? (h : get? entries key = some v) :
    put key v entries = entries := by
  induction entries with
  | nil => cases h
  | cons e rest ih =>
    rw [get?_cons] at h
    rw [put]
    by_cases he : e.1.sameKey key
    · rw [if_pos he] at h ⊢
      rw [← Option.some.inj h]
    · rw [if_neg he] at h ⊢
      rw [ih h]

theorem has_of_mem {e : Value × Value} (he : e ∈ entries) (hkey : e.1.sameKey key = true) :
    entries.has key = true := List.any_eq_true.mpr ⟨e, he, hkey⟩

theorem map_fst_put (key v : Value) (entries : Entries) :
    (put key v entries).map (·.1) =
      if entries.has key then entries.map (·.1) else entries.map (·.1) ++ [key] := by
  rcases put_cases key v entries with ⟨before, e, after, rfl, he, -, hput⟩ | ⟨hnew, hput⟩
  · have hhas : Entries.has (before ++ e :: after) key = true :=
      has_of_mem (List.mem_append_right _ List.mem_cons_self) he
    rw [if_pos hhas, hput, List.map_append, List.map_append]
    rfl
  · have hhas : ¬entries.has key = true := fun h => by
      obtain ⟨e, he, hsame⟩ := List.any_eq_true.mp h
      rw [hnew e he] at hsame
      cases hsame
    rw [if_neg hhas, hput, List.map_append]
    rfl

theorem has_eq (entries : Entries) (key : Value) :
    entries.has key = (entries.map (·.1)).any (·.sameKey key) := by
  rw [Entries.has, List.any_map]
  rfl

theorem get?_congr {other : Value} (h : key.sameKey other = true) (entries : Entries) :
    get? entries key = get? entries other := by
  simp only [get?, sameKey_congr_right h]

/-- The same key does not come again in a mapping. -/
theorem Distinct.get?_of_cons (h : Distinct ((key, v) :: entries)) {other : Value}
    (hkey : key.sameKey other = true) : get? entries other = none := by
  refine get?_of_new fun e he => ?_
  have hnew : key.sameKey e.1 = false := (List.pairwise_cons.mp h).1 e he
  rw [sameKey_comm, ← sameKey_congr hkey]
  exact hnew

end Entries

end LineJoin
