import LineJoin.Proofs.Pattern.PastedRuns
import LineJoin.Proofs.Pattern.Pieces

/-!
# The extent of a bracket class

A bracket class is read in the same way whatever follows it. No step of reading looks past a closing
bracket unless it takes it, so what such a step gives at the end of a text that ends with one it
gives in front of more characters as well: `Settles` says this of a step and `settles_readSet` of a
class.
-/

namespace LineJoin.Pattern

open Reader ReadState

/-- The last character, if there is one, is a closing bracket. -/
def Bracketing (text : List Char) : Prop := ∀ c ∈ text.getLast?, c = ']'

namespace Bracketing

variable {c : Char} {text rest : List Char}

theorem ne_nil (h : Bracketing (c :: rest)) (hc : c ≠ ']') : rest ≠ [] := by
  rintro rfl
  exact hc (h c rfl)

theorem of_append (h : Bracketing (text ++ rest)) : Bracketing rest := by
  intro c hc
  refine h c ?_
  rw [List.getLast?_append, Option.mem_def.mp hc]
  rfl

theorem append_close (text : List Char) : Bracketing (text ++ [']']) := by
  intro c hc
  rw [List.getLast?_concat, Option.mem_some] at hc
  exact hc.symm

/-- Characters other than closing brackets stop before the end. -/
theorem dropWhile_ne_nil (h : Bracketing text) (hne : text ≠ []) {p : Char → Bool}
    (hp : p ']' = false) : text.dropWhile p ≠ [] := by
  induction text with
  | nil => exact absurd rfl hne
  | cons c text ih =>
    rw [List.dropWhile_cons]
    split
    · rename_i hc
      have hne : c ≠ ']' := by
        rintro rfl
        rw [hp] at hc
        cases hc
      have htext : Bracketing ([c] ++ text) := h
      exact ih htext.of_append (h.ne_nil hne)
    · exact List.cons_ne_nil _ _

end Bracketing

/-- What the one reader gives at the end of a text, the other gives in front of more. -/
def Settles {α : Type} (x y : Reader α) (text : List Char) (Q : α → List Char → Prop) : Prop :=
  Bracketing text → ∀ (s s' : ReadState) (more : List Char), s.skips = false → s'.skips = false →
    s.rest = text → s'.rest = text ++ more →
    Mirrors x y s s' fun a t b u => a = b ∧ ∃ taken rest, text = taken ++ rest ∧ Q a rest ∧
      t = s.past taken.length rest ∧ u = s'.past taken.length (rest ++ more)

theorem past_zero {s : ReadState} {rest : List Char} (h : s.rest = rest) : s.past 0 rest = s := by
  subst h
  rfl

namespace Settles

variable {α β : Type} {x y : Reader α} {f g : α → Reader β} {text : List Char}
  {Q Q' : α → List Char → Prop} {R : β → List Char → Prop}

theorem pure {a : α} (h : Q a text) : Settles (pure a) (pure a) text Q :=
  fun _ _ _ _ _ _ hs hs' =>
    .pure ⟨rfl, [], text, rfl, h, (past_zero hs).symm, (past_zero hs').symm⟩

/-- Nothing is said where the first reader fails. -/
theorem fault (h : ∀ s : ReadState, s.rest = text → ∃ e, x.run s = .error (.fault e)) :
    Settles x y text Q := by
  intro _ s s' more _ _ hs _
  obtain ⟨e, he⟩ := h s hs
  exact .of_fault he

theorem fail (p : Problem) : Settles (fail p) y text Q := fault fun s _ => ⟨⟨p, s.position⟩, rfl⟩

theorem of_run {a : α} {rest : List Char} (taken : List Char) (htext : text = taken ++ rest)
    (h : Q a rest)
    (hx : ∀ (s : ReadState) (more : List Char), s.skips = false → s.rest = text ++ more →
      x.run s = .ok (a, s.past taken.length (rest ++ more))) : Settles x x text Q := by
  intro _ s s' more hskips hskips' hs hs'
  have halone := hx s [] hskips (by rw [hs, List.append_nil])
  rw [List.append_nil] at halone
  exact .of_run halone (hx s' more hskips' hs') ⟨rfl, taken, rest, htext, h, rfl, rfl⟩

theorem mono (h : Settles x y text Q) (k : ∀ a rest, Q a rest → Q' a rest) :
    Settles x y text Q' := by
  intro hclose s s' more hskips hskips' hs hs'
  refine (h hclose s s' more hskips hskips' hs hs').mono ?_
  rintro a t b u ⟨hab, taken, rest, htext, hq, ht, hu⟩
  exact ⟨hab, taken, rest, htext, k a rest hq, ht, hu⟩

theorem bind (h : Settles x y text Q) (k : ∀ a rest, Q a rest → Settles (f a) (g a) rest R) :
    Settles (x >>= f) (y >>= g) text R := by
  intro hclose s s' more hskips hskips' hs hs'
  refine (h hclose s s' more hskips hskips' hs hs').bind ?_
  rintro a t _ u ⟨rfl, taken, rest, rfl, hq, rfl, rfl⟩
  refine (k a rest hq hclose.of_append (s.past _ _) (s'.past _ _) more hskips
    hskips' rfl rfl).mono ?_
  rintro b t _ u ⟨rfl, taken', rest', rfl, hr, rfl, rfl⟩
  refine ⟨rfl, taken ++ taken', rest', by rw [List.append_assoc], hr, ?_, ?_⟩
  · rw [past_past, List.length_append]
  · rw [past_past, List.length_append]

/-- A place is only looked at to say where a fault is. -/
theorem bind_position {f g : Nat → Reader β} (k : ∀ m n, Settles (f m) (g n) text R) :
    Settles (position >>= f) (position >>= g) text R := by
  intro hclose s s' more hskips hskips' hs hs'
  exact Mirrors.step (run_position s) (run_position s')
    (k _ _ hclose s s' more hskips hskips' hs hs')

theorem attempt {x y : Reader (Option α)} {Q : Option α → List Char → Prop} (hnone : Q none text)
    (h : Settles x y text fun a rest => a ≠ none → Q a rest) :
    Settles (attempt x) (attempt y) text Q := by
  intro hclose s s' more hskips hskips' hs hs'
  refine Mirrors.step (run_get s) (run_get s')
    ((h hclose s s' more hskips hskips' hs hs').bind ?_)
  rintro a t _ u ⟨rfl, taken, rest, htext, hq, rfl, rfl⟩
  cases a with
  | some a =>
    exact .pure ⟨rfl, taken, rest, htext, hq (Option.some_ne_none a), rfl, rfl⟩
  | none =>
    refine Mirrors.step (run_set _ s) (run_set _ s') (.pure ?_)
    exact ⟨rfl, [], text, rfl, hnone, (past_zero hs).symm, (past_zero hs').symm⟩

theorem peek (h : Settles x y text Q) :
    Settles (peek x) (peek y) text fun _ rest => rest = text := by
  intro hclose s s' more hskips hskips' hs hs'
  refine Mirrors.step (run_get s) (run_get s')
    ((h hclose s s' more hskips hskips' hs hs').bind ?_)
  rintro a t _ u ⟨rfl, -⟩
  refine Mirrors.step (run_set _ s) (run_set _ s') (.pure ?_)
  exact ⟨rfl, [], text, rfl, rfl, (past_zero hs).symm, (past_zero hs').symm⟩

end Settles

section Steps

variable {text : List Char}

theorem settles_next (hne : text ≠ []) :
    Settles next next text fun a rest => ∃ c, a = some c ∧ (c ≠ ']' → rest ≠ []) := by
  intro hclose
  obtain ⟨c, rest, rfl⟩ := List.exists_cons_of_ne_nil hne
  exact Settles.of_run [c] rfl ⟨c, rfl, hclose.ne_nil⟩
    (fun s more hskips hs => run_next (sees_exact hs hskips)) hclose

theorem settles_nextExact (hne : text ≠ []) :
    Settles nextExact nextExact text fun a rest => ∃ c, a = some c ∧ (c ≠ ']' → rest ≠ []) := by
  intro hclose
  obtain ⟨c, rest, rfl⟩ := List.exists_cons_of_ne_nil hne
  exact Settles.of_run [c] rfl ⟨c, rfl, hclose.ne_nil⟩
    (fun s more _ hs => run_nextExact hs) hclose

theorem settles_accept (hne : text ≠ []) (x : Char) :
    Settles (accept x) (accept x) text fun _ rest => x ≠ ']' → rest ≠ [] := by
  intro hclose
  obtain ⟨c, rest, rfl⟩ := List.exists_cons_of_ne_nil hne
  by_cases hc : c = x
  · subst hc
    exact Settles.of_run [c] rfl hclose.ne_nil
      (fun s more hskips hs => run_accept (sees_exact hs hskips)) hclose
  · refine Settles.of_run (a := false) [] rfl (fun _ => hne) (fun s more hskips hs => ?_) hclose
    rw [run_accept_other (sees_exact hs hskips) hc, List.length_nil, past_zero hs]

theorem settles_takeExactly {p : Char → Bool} (hne : text ≠ []) (hp : p ']' = false) :
    Settles (takeExactly p) (takeExactly p) text fun _ rest => rest ≠ [] := by
  intro hclose
  have hrest := hclose.dropWhile_ne_nil hne hp
  have hsplit := List.takeWhile_append_dropWhile (p := p) (l := text)
  refine Settles.of_run (a := text.takeWhile p) (text.takeWhile p) hsplit.symm hrest
    (fun s more _ hs => ?_) hclose
  have htake : (text ++ more).takeWhile p = text.takeWhile p := by
    rw [List.takeWhile_append, if_neg]
    intro hlen
    have hsum := congrArg List.length hsplit
    rw [List.length_append, hlen] at hsum
    exact hrest (List.eq_nil_of_length_eq_zero (by omega))
  have hdrop : (text ++ more).dropWhile p = text.dropWhile p ++ more := by
    rw [List.dropWhile_append, if_neg (by simpa using hrest)]
  rw [takeExactly, run_bind_ok (run_get s), hs, htake, hdrop]
  rfl

theorem settles_takeWhile {p : Char → Bool} (hne : text ≠ []) (hp : p ']' = false) :
    Settles (Reader.takeWhile p) (Reader.takeWhile p) text fun _ rest => rest ≠ [] := by
  intro hclose s s' more hskips hskips' hs hs'
  have hexact {s : ReadState} (h : s.skips = false) :
      (Reader.takeWhile p).run s = (takeExactly p).run s := by
    rw [Reader.takeWhile, run_bind_ok (run_get s), h]
    rfl
  exact Mirrors.of_eq (hexact hskips) (hexact hskips')
    (settles_takeExactly hne hp hclose s s' more hskips hskips' hs hs')

end Steps

section Escapes

variable {text : List Char}

/-- A character of a kind that does not hold the closing bracket, if it is the next one. -/
theorem settles_takeIf {p : Char → Bool} (hne : text ≠ []) (hp : p ']' = false) :
    Settles
      (attempt do
        match ← next with
        | some c => return if p c then some c else none
        | none => return none)
      (attempt do
        match ← next with
        | some c => return if p c then some c else none
        | none => return none) text fun _ rest => rest ≠ [] := by
  refine Settles.attempt hne ((settles_next hne).bind ?_)
  rintro _ rest ⟨c, rfl, hrest⟩
  refine Settles.pure fun hsome => hrest ?_
  rintro rfl
  rw [hp] at hsome
  exact hsome rfl

theorem settles_readHexDigits (n : Nat) (hne : text ≠ []) :
    Settles (readHexDigits n) (readHexDigits n) text fun _ _ => True := by
  induction n generalizing text with
  | zero => exact .pure trivial
  | succ n ih =>
    refine (settles_next hne).bind ?_
    rintro _ rest ⟨c, rfl, hrest⟩
    dsimp only
    split
    · rename_i hhex
      have hc : c ≠ ']' := by
        rintro rfl
        revert hhex
        decide
      exact (ih (hrest hc)).bind fun _ _ _ => .pure trivial
    · exact .pure trivial

theorem settles_readHexEscape (letter : Char) (n : Nat) (hne : text ≠ []) :
    Settles (readHexEscape letter n) (readHexEscape letter n) text fun _ _ => True := by
  refine Settles.bind_position fun _ _ => (settles_readHexDigits n hne).bind ?_
  rintro ⟨complete, digits⟩ rest -
  cases complete with
  | false => exact .fault fun _ _ => ⟨_, rfl⟩
  | true =>
    simp only [Bool.not_true, Bool.false_eq_true, if_false]
    split
    · exact .pure trivial
    · exact .fault fun _ _ => ⟨_, rfl⟩

theorem settles_readNamedCharacter (hne : text ≠ []) :
    Settles readNamedCharacter readNamedCharacter text fun _ _ => True := by
  refine Settles.bind (Q := fun _ _ => True) (.attempt trivial ?_) ?_
  · refine (settles_accept hne _).bind fun opened rest hrest => ?_
    cases opened with
    | false => exact .pure fun _ => trivial
    | true =>
      refine (settles_takeExactly (hrest (by decide)) (by decide)).bind fun name rest hrest => ?_
      refine (settles_accept hrest _).bind fun closed rest _ => ?_
      cases closed <;> exact .pure fun _ => trivial
  · rintro found rest -
    cases found with
    | none => exact .pure trivial
    | some name =>
      dsimp only
      split
      · exact .pure trivial
      · exact .fail _

theorem settles_readPropertyName (hne : text ≠ []) :
    Settles readPropertyName readPropertyName text fun _ rest => rest ≠ [] := by
  refine (settles_takeWhile hne (by decide)).bind fun name text hne => ?_
  refine Settles.bind (Q := fun _ rest => rest ≠ []) (.attempt hne ?_) ?_
  · refine (settles_next hne).bind ?_
    rintro _ rest ⟨c, rfl, hrest⟩
    dsimp only
    split
    · rename_i hc
      have hne : rest ≠ [] := hrest (by rintro rfl; revert hc; decide)
      refine (settles_takeWhile hne (by decide)).bind fun value rest hrest => ?_
      split
      · exact .pure fun _ => hrest
      · exact .pure fun _ => hrest
    · exact .pure fun h => absurd rfl h
  · rintro qualified rest hrest
    cases qualified <;> exact .pure hrest

theorem settles_findProperty (inClass : Bool) (property : Option (List Char)) (name : List Char) :
    Settles (findProperty inClass property name) (findProperty inClass property name) text
      fun _ rest => rest = text := by
  intro _ s s' more _ _ hs hs'
  refine (Place.findProperty_follow inClass property name).mirrors.mono ?_
  rintro p _ _ _ ⟨rfl, rfl, rfl⟩
  exact ⟨rfl, [], text, rfl, rfl, (past_zero hs).symm, (past_zero hs').symm⟩

theorem settles_readBraced (positive : Bool) (hne : text ≠ []) :
    Settles (readBraced positive) (readBraced positive) text fun _ rest => rest ≠ [] := by
  refine .attempt hne ((settles_accept hne _).bind fun opened rest hrest => ?_)
  cases opened with
  | false => exact .pure fun h => absurd rfl h
  | true =>
    refine (settles_accept (hrest (by decide)) _).bind fun negated rest hrest => ?_
    refine (settles_readPropertyName (hrest (by decide))).bind fun found rest hrest => ?_
    refine (settles_accept hrest _).bind fun closed rest hrest => ?_
    cases closed with
    | false => exact .pure fun h => absurd rfl h
    | true => exact .pure fun _ => hrest (by decide)

theorem settles_readProperty (positive : Bool) (hne : text ≠ []) :
    Settles (readProperty positive) (readProperty positive) text fun _ _ => True := by
  refine (settles_readBraced positive hne).bind fun braced text hne => ?_
  cases braced with
  | some found => exact (settles_findProperty _ _ _).bind fun _ _ _ => .pure trivial
  | none =>
    refine (settles_takeIf (p := fun c => ['C', 'L', 'M', 'N', 'P', 'S', 'Z'].contains c) hne
      (by decide)).bind fun letter rest _ => ?_
    cases letter with
    | some c => exact (settles_findProperty _ _ _).bind fun _ _ _ => .pure trivial
    | none => exact .pure trivial

theorem settles_takeOctal (n : Nat) (hne : text ≠ []) :
    Settles (readOctal.takeOctal n) (readOctal.takeOctal n) text fun _ _ => True := by
  induction n generalizing text with
  | zero => exact .pure trivial
  | succ n ih =>
    refine (settles_takeIf (p := isOctal) hne (by decide)).bind fun digit rest hrest => ?_
    cases digit with
    | none => exact .pure trivial
    | some c => exact (ih hrest).bind fun _ _ _ => .pure trivial

theorem settles_readOctal (first : Char) (hne : text ≠ []) :
    Settles (readOctal first) (readOctal first) text fun _ _ => True := by
  refine (settles_takeOctal 2 hne).bind fun more rest _ => ?_
  dsimp only
  split
  · exact .pure trivial
  · exact .fail _

/-- An escape in a class. -/
theorem settles_readEscape (hne : text ≠ []) :
    Settles (readEscape true) (readEscape true) text fun _ _ => True := by
  refine (settles_nextExact hne).bind ?_
  rintro _ rest ⟨c, rfl, hrest⟩
  have hletter {p : Char → Bool} (hp : p ']' = false) (hc : p c = true) : rest ≠ [] := by
    refine hrest ?_
    rintro rfl
    rw [hp] at hc
    cases hc
  dsimp only
  split
  · rename_i length hlength
    refine settles_readHexEscape c length (hletter (p := fun c => (hexEscapeLength? c).isSome)
      (by decide) ?_)
    rw [hlength]
    rfl
  · simp only [Bool.not_true, Bool.and_false, Bool.false_eq_true, if_false, Bool.true_or, if_true]
    split
    · rename_i hc
      exact settles_readNamedCharacter (hrest (hc ▸ by decide))
    · split
      · rename_i hc
        exact settles_readProperty _ (hrest (by rintro rfl; revert hc; decide))
      · split
        · rename_i hc
          exact settles_readOctal c (hletter (by decide) hc)
        · split
          · split
            · exact .pure trivial
            · split
              · exact .pure trivial
              · exact .fail _
          · exact .pure trivial

end Escapes

section Classes

variable {text : List Char}

theorem settles_readNamedClass (hne : text ≠ []) :
    Settles readNamedClass readNamedClass text fun a rest => a = none → rest ≠ [] := by
  refine .attempt (fun _ => hne) ((settles_accept hne _).bind fun opened rest hrest => ?_)
  refine (settles_accept (hrest (by decide)) _).bind fun colon rest hrest => ?_
  split
  · refine (settles_accept (hrest (by decide)) _).bind fun negated rest hrest => ?_
    refine (settles_readPropertyName (hrest (by decide))).bind fun found rest hrest => ?_
    refine (settles_accept hrest _).bind fun second rest hrest => ?_
    refine (settles_accept (hrest (by decide)) _).bind fun closed rest _ => ?_
    split
    · exact .pure fun _ h => nomatch h
    · exact .pure fun h => absurd rfl h
  · exact .pure fun h => absurd rfl h

theorem settles_readSetItem (hne : text ≠ []) :
    Settles readSetItem readSetItem text fun _ _ => True := by
  refine (settles_accept hne _).bind fun escaped rest hrest => ?_
  have hne := hrest (by decide)
  cases escaped with
  | true => exact (settles_readEscape hne).bind fun _ _ _ => .pure trivial
  | false =>
    refine (settles_readNamedClass hne).bind fun found rest hrest => ?_
    cases found with
    | some found => exact (settles_findProperty _ _ _).bind fun _ _ _ => .pure trivial
    | none =>
      refine (settles_next (hrest rfl)).bind ?_
      rintro _ rest ⟨c, rfl, -⟩
      exact .pure trivial

/-- The rest of a member after its first item. -/
def memberFrom : SetItem → Reader (List SetItem)
  | .code low => do
    if ← accept '-' then
      if ← peek (accept ']') then return [.code low, .code '-'.toNat]
      else
        match ← readSetItem with
        | .code high =>
          if high < low then fail .badRange
          else if low = high then return [.code low]
          else return [.span low high]
        | item => return [.code low, .code '-'.toNat, item]
    else return [.code low]
  | item => return [item]

/-- The members after one of them. -/
def membersFrom (fuel : Nat) (member : List SetItem) : Reader (List SetItem) := do
  if ← peek (accept ']') then return member
  else return member ++ (← readSetMembers fuel)

theorem readSetMembers_succ (fuel : Nat) : readSetMembers (fuel + 1) =
    readSetItem >>= fun item => memberFrom item >>= membersFrom fuel := by
  have hmember : readSetMember = readSetItem >>= memberFrom := by
    rw [readSetMember]
    congr
  rw [readSetMembers, hmember, bind_assoc]
  rfl

theorem settles_memberFrom (item : SetItem) (hne : text ≠ []) :
    Settles (memberFrom item) (memberFrom item) text fun _ _ => True := by
  cases item with
  | code low =>
    refine (settles_accept hne _).bind fun hyphen rest hrest => ?_
    have hne := hrest (by decide)
    cases hyphen with
    | false => exact .pure trivial
    | true =>
      refine (settles_accept hne _).peek.bind ?_
      rintro closing _ rfl
      cases closing with
      | true => exact .pure trivial
      | false =>
        refine (settles_readSetItem hne).bind fun second rest _ => ?_
        cases second with
        | code high =>
          dsimp only
          split
          · exact .fail _
          · split <;> exact .pure trivial
        | _ => exact .pure trivial
  | _ => exact .pure trivial

section End

variable {s : ReadState} (hs : s.rest = [])

include hs

theorem run_readSetMembers_end (fuel : Nat) :
    ∃ e, (readSetMembers fuel).run s = .error (.fault e) := by
  cases fuel with
  | zero => exact ⟨_, rfl⟩
  | succ fuel =>
    have hclass : readNamedClass.run s = .ok (none, s) := by
      refine run_attempt_none (t := s) ?_
      rw [run_bind_ok (run_accept_end hs _), run_bind_ok (run_accept_end hs _)]
      rfl
    have hitem : readSetItem.run s = .error (.fault ⟨.unterminatedSet, s.position⟩) := by
      rw [readSetItem, run_bind_ok (run_accept_end hs _)]
      refine (run_bind_ok hclass).trans ?_
      exact run_bind_ok (run_next_end hs)
    rw [readSetMembers_succ]
    exact ⟨_, run_bind_error hitem⟩

theorem run_membersFrom_end (fuel : Nat) (member : List SetItem) :
    ∃ e, (membersFrom fuel member).run s = .error (.fault e) := by
  obtain ⟨e, he⟩ := run_readSetMembers_end hs fuel
  refine ⟨e, ?_⟩
  rw [membersFrom, run_bind_ok (run_peek (run_accept_end hs _))]
  exact run_bind_error he

theorem run_memberFrom_end (item : SetItem) :
    ∃ member, (memberFrom item).run s = .ok (member, s) := by
  cases item with
  | code low => exact ⟨[.code low], run_bind_ok (run_accept_end hs _)⟩
  | _ => exact ⟨_, rfl⟩

end End

/-- A class is not closed before its members are read. -/
theorem settles_readSetMembers {fuel fuel' : Nat} (hfuel : fuel ≤ fuel') (hne : text ≠ []) :
    Settles (readSetMembers fuel) (readSetMembers fuel') text fun _ rest => rest ≠ [] := by
  induction fuel generalizing fuel' text with
  | zero => exact .fail _
  | succ fuel ih =>
    obtain ⟨fuel', rfl⟩ := Nat.exists_eq_add_of_le' (Nat.lt_of_lt_of_le (Nat.succ_pos fuel) hfuel)
    have hfrom (member : List SetItem) (rest : List Char) : Settles (membersFrom fuel member)
        (membersFrom fuel' member) rest fun _ rest => rest ≠ [] := by
      by_cases hrest : rest = []
      · exact .fault fun s hs => run_membersFrom_end (hs.trans hrest) fuel member
      · refine (settles_accept hrest _).peek.bind ?_
        rintro closing _ rfl
        cases closing with
        | true => exact .pure hrest
        | false => exact (ih (Nat.le_of_succ_le_succ hfuel) hrest).bind fun _ _ h => .pure h
    rw [readSetMembers_succ, readSetMembers_succ]
    refine (settles_readSetItem hne).bind fun item rest _ => ?_
    by_cases hrest : rest = []
    · refine .fault fun s hs => ?_
      obtain ⟨member, hmember⟩ := run_memberFrom_end (hs.trans hrest) item
      rw [run_bind_ok hmember]
      exact run_membersFrom_end (hs.trans hrest) fuel member
    · exact (settles_memberFrom item hrest).bind fun member rest _ => hfrom member rest

/-- A class after its opening bracket, where blanks are not passed over. -/
def readSetExact (fuel : Nat) : Reader CharTest := do
  let negated ← accept '^'
  let items ← readSetMembers fuel
  expect ']'
  return .set (!negated) items

theorem run_readSet_eq (s : ReadState) : readSet.run s =
    (readSetExact (s.rest.length + 1) >>= fun test => do
      modify fun t : ReadState => { t with skips := s.skips }
      return test).run { s with skips := false } := by
  rw [readSet, run_bind_ok (run_get s), run_bind_ok (run_set _ _)]
  simp only [readSetExact, bind_assoc, pure_bind]

theorem settles_readSetExact {fuel fuel' : Nat} (hfuel : fuel ≤ fuel') (hne : text ≠ []) :
    Settles (readSetExact fuel) (readSetExact fuel') text fun _ _ => True := by
  refine (settles_accept hne _).bind fun negated rest hrest => ?_
  refine (settles_readSetMembers hfuel (hrest (by decide))).bind fun items rest hrest => ?_
  refine Settles.bind (Q := fun _ _ => True) ?_ fun _ _ _ => .pure trivial
  refine (settles_accept hrest _).bind fun closed rest _ => ?_
  cases closed with
  | true => exact .pure trivial
  | false => exact .fail _

/-- A class that ends with its text is read in the same way in front of anything. -/
theorem run_readSet_class {body rest : List Char} {test : CharTest} {s t : ReadState}
    (h : readSet.run (.start (body ++ [']']) {}) = .ok (test, t)) (ht : t.rest = [])
    (hs : s.rest = body ++ ']' :: rest) :
    readSet.run s = .ok (test, s.past (body.length + 1) rest) := by
  let alone : ReadState := .start (body ++ [']']) {}
  have hlength : alone.rest.length + 1 ≤ s.rest.length + 1 := by
    rw [hs]
    simp [alone, ReadState.start]
  have hsettles := settles_readSetExact hlength (by simp) (Bracketing.append_close body)
    alone { s with skips := false } rest rfl rfl rfl (by rw [hs]; simp)
  rw [run_readSet_eq] at h ⊢
  cases hrun : (readSetExact (alone.rest.length + 1)).run alone with
  | error e =>
    rw [run_bind_error (s := { alone with skips := false }) hrun] at h
    cases h
  | ok found =>
    obtain ⟨test', u⟩ := found
    rw [run_bind_ok (s := { alone with skips := false }) hrun] at h
    obtain ⟨rfl, rfl⟩ := Prod.mk.inj (Except.ok.inj h)
    obtain ⟨_, u', hrun', rfl, taken, rest', htext, -, rfl, rfl⟩ := hsettles.ok _ _ hrun
    obtain rfl : rest' = [] := ht
    rw [run_bind_ok hrun']
    have hlen := congrArg List.length htext
    simp only [List.length_append, List.length_cons, List.length_nil, Nat.add_zero] at hlen
    rw [← hlen]
    rfl

end Classes

/-- A text that is one bracket class, up to its own closing bracket, and the test it stands for. -/
def IsClass (text : List Char) (test : CharTest) : Prop :=
  ∃ body t, text = '[' :: (body ++ [']']) ∧
    readSet.run (.start (body ++ [']']) {}) = .ok (test, t) ∧ t.rest = []

variable {text : List Char} {test : CharTest}

theorem IsClass.readsElement (h : IsClass text test) :
    ReadsElement text fun i => .char i test := by
  obtain ⟨body, t, rfl, hread, ht⟩ := h
  intro fuel seq s rest _ _ hrest
  have hrest' : s.rest = '[' :: (body ++ ']' :: rest) := by
    rw [hrest]
    simp
  have hsees : s.Sees '[' (body ++ ']' :: rest) := sees_visible hrest' (by decide)
  have hset := run_readSet_class hread ht (s := s.past 1 (body ++ ']' :: rest)) rfl
  rw [past_past, Nat.add_comm 1] at hset
  rw [readSequence, run_bind_ok (run_get s), run_bind_ok (run_next hsees)]
  refine (run_bind_ok hset).trans ?_
  simp only [List.length_cons, List.length_append, List.length_nil]

theorem isClass_letters : IsClass "[a-z]".toList (.set true [.span 97 122]) :=
  ⟨['a', '-', 'z'], (ReadState.start ['a', '-', 'z', ']'] {}).past 4 [], String.toList_ofList,
    by rfl, rfl⟩

theorem isClass_digits : IsClass "[0-9]".toList (.set true [.span 48 57]) :=
  ⟨['0', '-', '9'], (ReadState.start ['0', '-', '9', ']'] {}).past 4 [], String.toList_ofList,
    by rfl, rfl⟩

end LineJoin.Pattern
