import LineJoin.Proofs.Pattern.Numbers
import LineJoin.Proofs.Pattern.Steps
import Mathlib.Data.List.Forall2

/-!
# Reading a pasted text

A pattern text that is pasted into another one in front of a closing parenthesis is read there step
by step as it is read alone, as long as reading it alone does not fail. A `Place` says where the text
is pasted; `Place.state` is the state there that belongs to a state of reading alone. `Mirrors`
relates the two readings. Where reading alone is at its end, the pasted text is followed by the
parenthesis, unless a comment goes on: then both readings are at their end.
-/

namespace LineJoin.Pattern

open Reader ReadState

/-- Groups are counted from one, and references are by name. -/
def Node.Named : Node Ref → Prop
  | .seq a b => a.Named ∧ b.Named
  | .alt a b => a.Named ∧ b.Named
  | .group n body => 0 < n ∧ body.Named
  | .atomic body => body.Named
  | .look _ _ body => body.Named
  | .repeated _ _ _ body => body.Named
  | .backref _ r => r.name.all isDigit = false
  | .ifGroup r yes no => r.name.all isDigit = false ∧ yes.Named ∧ no.Named
  | .call r => r.name.all isDigit = false ∧ r.kind = .call
  | _ => True

/-- Where a text is pasted: what follows the closing parenthesis, how far on it begins, the number
of groups before it, those of them that are open around it, and the ones opened so far. -/
structure Place where
  rest : List Char
  offset : Nat
  groups : Nat
  outer : List Nat
  opened : List Nat

namespace Place

def tail (P : Place) : List Char := ')' :: P.rest

/-- The groups around the place are counted before it, and a comment in it ends with the text. -/
structure Proper (P : Place) : Prop where
  outer : ∀ n ∈ P.outer, n ≤ P.groups
  opened : ∀ n ∈ P.opened, n ≤ P.groups
  line : '\n' ∉ P.rest

/-- The state at the place that belongs to a state of reading alone. -/
def state (P : Place) (s : ReadState) : ReadState where
  rest := s.rest ++ P.tail
  position := s.position + P.offset
  skips := s.skips
  flags := s.flags
  globalFlags := s.globalFlags
  groupCount := s.groupCount + P.groups
  groupNames := s.groupNames.map fun e => (e.1, e.2 + P.groups)
  openGroups := s.openGroups.map (· + P.groups) ++ P.outer
  opened := s.opened.map (· + P.groups) ++ P.opened

/-- A reference, with its position counted on. -/
def ref (P : Place) (r : Ref) : Ref := { r with position := r.position + P.offset }

/-- The node at the place that belongs to a node read alone. -/
def node (P : Place) : Node Ref → Node Ref
  | .empty => .empty
  | .never => .never
  | .char i t => .char i t
  | .anchor a => .anchor a
  | .seq a b => .seq (P.node a) (P.node b)
  | .alt a b => .alt (P.node a) (P.node b)
  | .group n body => .group (n + P.groups) (P.node body)
  | .atomic body => .atomic (P.node body)
  | .look behind positive body => .look behind positive (P.node body)
  | .repeated greedy least most body => .repeated greedy least most (P.node body)
  | .backref i r => .backref i (P.ref r)
  | .ifGroup r yes no => .ifGroup (P.ref r) (P.node yes) (P.node no)
  | .call r => .call (P.ref r)
  | .keep => .keep

/-- Both readings are at their end, the pasted one in a comment. -/
structure Ended (P : Place) (s s' : ReadState) : Prop where
  alone : s.rest = []
  pasted : s'.rest = []

/-- A state of reading alone and the state at the place. -/
def Beside (P : Place) (s s' : ReadState) : Prop := s' = P.state s ∨ P.Ended s s'

end Place

/-- What holds of a state of reading alone: no references by number are ahead, and the groups with
names have been counted. -/
structure ReadState.Sound (s : ReadState) : Prop where
  numbers : refersByNumber s.rest = false
  named : ∀ e ∈ s.groupNames, 0 < e.2

/-- Reading has gone on, and the groups that it has opened are closed. -/
structure ReadState.Onward (s t : ReadState) : Prop where
  shorter : t.rest.length ≤ s.rest.length
  opens : t.openGroups = s.openGroups
  sound : t.Sound

theorem ReadState.Sound.onward {s : ReadState} (h : s.Sound) : s.Onward s := ⟨Nat.le_refl _, rfl, h⟩

theorem ReadState.Onward.trans {s t u : ReadState} (h : s.Onward t) (k : t.Onward u) :
    s.Onward u :=
  ⟨Nat.le_trans k.shorter h.shorter, k.opens.trans h.opens, k.sound⟩

/-- Whatever one reader gives, the other gives something that belongs to it; where the one starts
again, the other does too. Nothing is said where the one fails. -/
structure Mirrors {α β : Type} (x : Reader α) (y : Reader β) (s s' : ReadState)
    (Q : α → ReadState → β → ReadState → Prop) : Prop where
  ok : ∀ a t, x.run s = .ok (a, t) → ∃ b u, y.run s' = .ok (b, u) ∧ Q a t b u
  restart : ∀ f, x.run s = .error (.restart f) → y.run s' = .error (.restart f)

namespace Mirrors

variable {α β γ δ : Type} {x : Reader α} {y : Reader β} {s s' t u : ReadState}
  {f : α → Reader γ} {g : β → Reader δ} {Q : α → ReadState → β → ReadState → Prop}
  {Q' : γ → ReadState → δ → ReadState → Prop}

theorem of_run {a : α} {b : β} (hx : x.run s = .ok (a, t)) (hy : y.run s' = .ok (b, u))
    (h : Q a t b u) : Mirrors x y s s' Q where
  ok _ _ hrun := by
    rw [hx] at hrun
    cases hrun
    exact ⟨b, u, hy, h⟩
  restart _ hrun := by
    rw [hx] at hrun
    cases hrun

theorem of_fault {e : Fault} (hx : x.run s = .error (.fault e)) : Mirrors x y s s' Q where
  ok _ _ hrun := by
    rw [hx] at hrun
    cases hrun
  restart _ hrun := by
    rw [hx] at hrun
    cases hrun

theorem of_restart {f : Flags} (hx : x.run s = .error (.restart f))
    (hy : y.run s' = .error (.restart f)) : Mirrors x y s s' Q where
  ok _ _ hrun := by
    rw [hx] at hrun
    cases hrun
  restart _ hrun := by
    rw [hx] at hrun
    cases hrun
    exact hy

theorem pure {a : α} {b : β} (h : Q a s b s') :
    Mirrors (pure a) (pure b) s s' Q := of_run (run_pure a s) (run_pure b s') h

theorem mono {Q' : α → ReadState → β → ReadState → Prop} (h : Mirrors x y s s' Q)
    (k : ∀ a t b u, Q a t b u → Q' a t b u) : Mirrors x y s s' Q' where
  ok a t hrun := by
    obtain ⟨b, u, hy, hp⟩ := h.ok a t hrun
    exact ⟨b, u, hy, k a t b u hp⟩
  restart := h.restart

theorem bind (h : Mirrors x y s s' Q)
    (k : ∀ a t b u, Q a t b u → Mirrors (f a) (g b) t u Q') :
    Mirrors (x >>= f) (y >>= g) s s' Q' := by
  cases hx : x.run s with
  | ok p =>
    obtain ⟨a, t⟩ := p
    obtain ⟨b, u, hy, hp⟩ := h.ok a t hx
    have hk := k a t b u hp
    constructor
    · rw [run_bind_ok hx, run_bind_ok hy]
      exact hk.ok
    · rw [run_bind_ok hx, run_bind_ok hy]
      exact hk.restart
  | error e =>
    cases e with
    | fault e => exact of_fault (run_bind_error hx)
    | restart f => exact of_restart (run_bind_error hx) (run_bind_error (h.restart f hx))

/-- Readers that are known to go on as others do. -/
theorem of_eq {x' : Reader α} {y' : Reader β} (hx : x.run s = x'.run t) (hy : y.run s' = y'.run u)
    (h : Mirrors x' y' t u Q) : Mirrors x y s s' Q where
  ok a v hrun := by
    rw [hy]
    exact h.ok a v (hx.symm.trans hrun)
  restart f hrun := by
    rw [hy]
    exact h.restart f (hx.symm.trans hrun)

/-- A step that both readers are known to take. -/
theorem step {a : α} {b : β} (hx : x.run s = .ok (a, t)) (hy : y.run s' = .ok (b, u))
    (h : Mirrors (f a) (g b) t u Q') : Mirrors (x >>= f) (y >>= g) s s' Q' :=
  bind (Q := fun a' t' b' u' => a' = a ∧ t' = t ∧ b' = b ∧ u' = u)
    (of_run hx hy ⟨rfl, rfl, rfl, rfl⟩) fun _ _ _ _ h' => by
      obtain ⟨rfl, rfl, rfl, rfl⟩ := h'
      exact h

end Mirrors

/-- Both readers give something, and what they give belongs together. -/
def Agree {α β : Type} (x : Reader α) (y : Reader β) (s s' : ReadState)
    (Q : α → ReadState → β → ReadState → Prop) : Prop :=
  ∃ a t b u, x.run s = .ok (a, t) ∧ y.run s' = .ok (b, u) ∧ Q a t b u

namespace Agree

variable {α β γ δ : Type} {x : Reader α} {y : Reader β} {s s' : ReadState}
  {f : α → Reader γ} {g : β → Reader δ} {Q : α → ReadState → β → ReadState → Prop}
  {Q' : γ → ReadState → δ → ReadState → Prop}

theorem pure {a : α} {b : β} (h : Q a s b s') : Agree (pure a) (pure b) s s' Q :=
  ⟨a, s, b, s', run_pure a s, run_pure b s', h⟩

theorem bind (h : Agree x y s s' Q)
    (k : ∀ a t b u, Q a t b u → Agree (f a) (g b) t u Q') :
    Agree (x >>= f) (y >>= g) s s' Q' := by
  obtain ⟨a, t, b, u, hx, hy, hp⟩ := h
  obtain ⟨c, v, d, w, hf, hg, hp'⟩ := k a t b u hp
  exact ⟨c, v, d, w, (run_bind_ok hx).trans hf, (run_bind_ok hy).trans hg, hp'⟩

/-- A step that both readers are known to take. -/
theorem step {t u : ReadState} {a : α} {b : β} (hx : x.run s = .ok (a, t))
    (hy : y.run s' = .ok (b, u)) (h : Agree (f a) (g b) t u Q') :
    Agree (x >>= f) (y >>= g) s s' Q' := by
  obtain ⟨c, v, d, w, hf, hg, hp⟩ := h
  exact ⟨c, v, d, w, (run_bind_ok hx).trans hf, (run_bind_ok hy).trans hg, hp⟩

theorem mono {Q' : α → ReadState → β → ReadState → Prop} (h : Agree x y s s' Q)
    (k : ∀ a t b u, Q a t b u → Q' a t b u) : Agree x y s s' Q' := by
  obtain ⟨a, t, b, u, hx, hy, hp⟩ := h
  exact ⟨a, t, b, u, hx, hy, k a t b u hp⟩

/-- Attempts agree if their steps do; what holds where a step gives something holds before it. -/
theorem attempt {x y : Reader (Option α)} {R : Option α → ReadState → ReadState → Prop}
    (hnone : R none s s') (h : Agree x y s s' fun a t b u => a = b ∧ (a ≠ none → R a t u)) :
    Agree (attempt x) (attempt y) s s' fun a t b u => a = b ∧ R a t u := by
  obtain ⟨a, t, b, u, hx, hy, rfl, hR⟩ := h
  cases a with
  | none => exact ⟨none, s, none, s', run_attempt_none hx, run_attempt_none hy, rfl, hnone⟩
  | some a =>
    exact ⟨some a, t, some a, u, run_attempt_some hx, run_attempt_some hy, rfl,
      hR (Option.some_ne_none a)⟩

theorem mirrors (h : Agree x y s s' Q) : Mirrors x y s s' Q := by
  obtain ⟨a, t, b, u, hx, hy, hp⟩ := h
  exact .of_run hx hy hp

end Agree

/-- Either both readers give something, and what they give belongs together, or both fail. -/
def Follow {α β : Type} (x : Reader α) (y : Reader β) (s s' : ReadState)
    (Q : α → ReadState → β → ReadState → Prop) : Prop :=
  Agree x y s s' Q ∨
    ∃ e e', x.run s = .error (.fault e) ∧ y.run s' = .error (.fault e')

namespace Follow

variable {α β γ δ : Type} {x : Reader α} {y : Reader β} {s s' : ReadState}
  {f : α → Reader γ} {g : β → Reader δ} {Q : α → ReadState → β → ReadState → Prop}
  {Q' : γ → ReadState → δ → ReadState → Prop}

theorem bind (h : Follow x y s s' Q)
    (k : ∀ a t b u, Q a t b u → Follow (f a) (g b) t u Q') :
    Follow (x >>= f) (y >>= g) s s' Q' := by
  rcases h with ⟨a, t, b, u, hx, hy, hp⟩ | ⟨e, e', hx, hy⟩
  · rcases k a t b u hp with ⟨c, v, d, w, hf, hg, hp'⟩ | ⟨e, e', hf, hg⟩
    · exact .inl ⟨c, v, d, w, (run_bind_ok hx).trans hf, (run_bind_ok hy).trans hg, hp'⟩
    · exact .inr ⟨e, e', (run_bind_ok hx).trans hf, (run_bind_ok hy).trans hg⟩
  · exact .inr ⟨e, e', run_bind_error hx, run_bind_error hy⟩

theorem step {t u : ReadState} {a : α} {b : β} (hx : x.run s = .ok (a, t))
    (hy : y.run s' = .ok (b, u)) (h : Follow (f a) (g b) t u Q') :
    Follow (x >>= f) (y >>= g) s s' Q' :=
  bind (Q := fun a' t' b' u' => a' = a ∧ t' = t ∧ b' = b ∧ u' = u)
    (.inl ⟨a, t, b, u, hx, hy, rfl, rfl, rfl, rfl⟩) fun _ _ _ _ h' => by
      obtain ⟨rfl, rfl, rfl, rfl⟩ := h'
      exact h

theorem mirrors (h : Follow x y s s' Q) : Mirrors x y s s' Q := by
  rcases h with h | ⟨e, -, hx, -⟩
  · exact h.mirrors
  · exact .of_fault hx

end Follow

namespace Place

variable {P : Place} {α β γ δ : Type} {s s' : ReadState}

/-- Reading has gone on in the same way, with a result that belongs to the one of reading alone. -/
def Went (P : Place) (R : α → β → Prop) (s : ReadState) : α → ReadState → β → ReadState → Prop :=
  fun a t b u => R a b ∧ u = P.state t ∧ s.Onward t

theorem bind {x : Reader α} {y : Reader β} {f : α → Reader γ} {g : β → Reader δ}
    {R : α → β → Prop} {R' : γ → δ → Prop} (h : Mirrors x y s (P.state s) (P.Went R s))
    (k : ∀ a b t, R a b → s.Onward t → Mirrors (f a) (g b) t (P.state t) (P.Went R' t)) :
    Mirrors (x >>= f) (y >>= g) s (P.state s) (P.Went R' s) := by
  refine h.bind fun a t b u hw => ?_
  obtain ⟨hab, rfl, ht⟩ := hw
  refine (k a b t hab ht).mono fun c v d w hw' => ?_
  obtain ⟨hcd, hw', hv⟩ := hw'
  exact ⟨hcd, hw', ht.trans hv⟩

/-- A step that is known to go on in the same way. -/
theorem step {x : Reader α} {y : Reader β} {f : α → Reader γ} {g : β → Reader δ}
    {R : γ → δ → Prop} {a : α} {b : β} {t : ReadState} (hx : x.run s = .ok (a, t))
    (hy : y.run (P.state s) = .ok (b, P.state t)) (ht : s.Onward t)
    (h : Mirrors (f a) (g b) t (P.state t) (P.Went R t)) :
    Mirrors (x >>= f) (y >>= g) s (P.state s) (P.Went R s) := by
  refine Mirrors.step hx hy (h.mono fun c v d w hw => ?_)
  obtain ⟨hcd, hw, hv⟩ := hw
  exact ⟨hcd, hw, ht.trans hv⟩

/-- A node read at the place is the one read alone. -/
def Copies (P : Place) (n m : Node Ref) : Prop := m = P.node n ∧ n.Named

/-- A list of nodes read at the place is the one read alone. -/
def CopiesAll (P : Place) (l m : List (Node Ref)) : Prop := List.Forall₂ P.Copies l m

/-- What an escape stands for at the place is what it stands for alone. -/
def atom (P : Place) : Atom → Atom
  | .code c => .code c
  | .property p positive => .property p positive
  | .node n => .node (P.node n)

def CopiesAtom (P : Place) (a b : Atom) : Prop := b = P.atom a ∧ ∀ n, a = .node n → n.Named

theorem copiesAtom_code (c : Nat) : P.CopiesAtom (.code c) (.code c) := ⟨rfl, fun _ h => nomatch h⟩

theorem copiesAtom_property (p : Property) (positive : Bool) :
    P.CopiesAtom (.property p positive) (.property p positive) := ⟨rfl, fun _ h => nomatch h⟩

theorem copiesAtom_node {n m : Node Ref} (h : P.Copies n m) :
    P.CopiesAtom (.node n) (.node m) := by
  obtain ⟨rfl, h⟩ := h
  refine ⟨rfl, fun n' heq => ?_⟩
  cases heq
  exact h

theorem copiesAtom_toNode {a b : Atom} (h : P.CopiesAtom a b) (i : Bool) :
    P.Copies (a.toNode i) (b.toNode i) := by
  obtain ⟨rfl, h⟩ := h
  cases a with
  | code c => exact ⟨rfl, trivial⟩
  | property p positive => exact ⟨rfl, trivial⟩
  | node n => exact ⟨rfl, h n rfl⟩

theorem isEmpty_node (n : Node Ref) : (P.node n).isEmpty = n.isEmpty := by
  induction n <;> simp_all [node, Node.isEmpty]

end Place

/-- Whether the end of a text is in a comment. -/
def endsInComment : Bool → List Char → Bool
  | b, [] => b
  | true, c :: rest => endsInComment (c != '\n') rest
  | false, c :: rest =>
    if isBlank c then endsInComment false rest
    else if c = '#' then endsInComment true rest
    else false

theorem skipFrom_shift (b : Bool) (n k : Nat) (text : List Char) :
    skipFrom b (n + k) text = ((skipFrom b n text).1 + k, (skipFrom b n text).2) := by
  induction text generalizing b n with
  | nil => rfl
  | cons c rest ih =>
    have hk : n + k + 1 = n + 1 + k := by omega
    cases b with
    | true =>
      simp only [skipFrom, hk]
      split
      · exact ih false (n + 1)
      · exact ih true (n + 1)
    | false =>
      simp only [skipFrom, hk]
      split
      · exact ih false (n + 1)
      · split
        · exact ih true (n + 1)
        · rfl

/-- What is passed over does not depend on what stands behind the first character that is not. -/
theorem skipFrom_append (b : Bool) (n : Nat) (text tail : List Char) :
    skipFrom b n (text ++ tail) = match skipFrom b n text with
      | (m, c :: rest) => (m, c :: (rest ++ tail))
      | (m, []) => skipFrom (endsInComment b text) m tail := by
  induction text generalizing b n with
  | nil => rfl
  | cons c rest ih =>
    cases b with
    | true =>
      simp only [List.cons_append, skipFrom, endsInComment]
      by_cases hc : c = '\n'
      · simp only [hc, if_true, bne_self_eq_false]
        exact ih false (n + 1)
      · simp only [if_neg hc, bne_iff_ne.mpr hc]
        exact ih true (n + 1)
    | false =>
      simp only [List.cons_append, skipFrom, endsInComment]
      by_cases hblank : isBlank c = true
      · simp only [hblank, if_true]
        exact ih false (n + 1)
      · simp only [if_neg hblank]
        by_cases hc : c = '#'
        · simp only [if_pos hc]
          exact ih true (n + 1)
        · simp only [if_neg hc]

theorem skipFrom_comment {text : List Char} (h : '\n' ∉ text) (n : Nat) :
    (skipFrom true n text).2 = [] := by
  induction text generalizing n with
  | nil => rfl
  | cons c rest ih =>
    rw [List.mem_cons, not_or] at h
    obtain ⟨hc, h⟩ := h
    rw [skipFrom, if_neg (Ne.symm hc)]
    exact ih h (n + 1)

theorem length_skipFrom_le (b : Bool) (n : Nat) (text : List Char) :
    (skipFrom b n text).2.length ≤ text.length := by
  induction text generalizing b n with
  | nil => exact Nat.le_refl _
  | cons c rest ih =>
    have hle {b : Bool} : (skipFrom b (n + 1) rest).2.length ≤ (c :: rest).length :=
      Nat.le_succ_of_le (ih b (n + 1))
    cases b with
    | true =>
      rw [skipFrom]
      split <;> exact hle
    | false =>
      rw [skipFrom]
      split
      · exact hle
      · split
        · exact hle
        · exact Nat.le_refl _

/-- Whether reading is at its end in a comment. -/
def ReadState.Commented (s : ReadState) : Prop := s.skips = true ∧ endsInComment false s.rest = true

end LineJoin.Pattern
