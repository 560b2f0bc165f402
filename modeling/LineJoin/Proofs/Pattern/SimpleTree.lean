import LineJoin.Proofs.Pattern.Language

/-!
# Simple trees

A simple tree is made of tests of one character by sequences, alternatives and repetitions. Its node
is plain and holds no references, so it is the same node before and after references are resolved.
-/

namespace LineJoin.Pattern

inductive Simple where
  | empty
  | char (test : CharTest)
  | seq (first second : Simple)
  | alt (first second : Simple)
  | repeated (greedy : Bool) (least : Nat) (most : Option Nat) (body : Simple)

namespace Simple

def node {ρ : Type} : Simple → Node ρ
  | empty => .empty
  | char test => .char false test
  | seq a b => .seq a.node b.node
  | alt a b => .alt a.node b.node
  | repeated greedy least most body => .repeated greedy least most body.node

/-- The tests of characters in a tree. -/
def tests : Simple → List CharTest
  | empty => []
  | char test => [test]
  | seq a b | alt a b => a.tests ++ b.tests
  | repeated _ _ _ body => body.tests

def sequence : List Simple → Simple
  | [] => empty
  | [t] => t
  | t :: rest => seq t (sequence rest)

def branches : List Simple → Simple
  | [] => empty
  | [t] => t
  | t :: rest => alt t (branches rest)

/-- The texts of a tree. -/
def Matches (t : Simple) (text : List Char) : Prop := (t.node : Node Nat).Matches text

variable {ρ : Type}

theorem node_sequence (ts : List Simple) :
    ((sequence ts).node : Node ρ) = Node.sequence (ts.map node) := by
  induction ts with
  | nil => rfl
  | cons t ts ih =>
    cases ts with
    | nil => rfl
    | cons u us => exact congrArg (Node.seq t.node) ih

theorem node_branches (ts : List Simple) :
    ((branches ts).node : Node ρ) = Node.branches (ts.map node) := by
  induction ts with
  | nil => rfl
  | cons t ts ih =>
    cases ts with
    | nil => rfl
    | cons u us => exact congrArg (Node.alt t.node) ih

theorem plain_node (t : Simple) : (t.node : Node Nat).Plain := by
  induction t with
  | empty => trivial
  | char test => trivial
  | seq a b iha ihb => exact ⟨iha, ihb⟩
  | alt a b iha ihb => exact ⟨iha, ihb⟩
  | repeated greedy least most body ih => exact ih

theorem resolve_node {ε σ : Type} (f : ρ → Except ε σ) (t : Simple) :
    (t.node : Node ρ).resolve f = .ok t.node := by
  induction t with
  | empty => rfl
  | char test => rfl
  | seq a b iha ihb =>
    rw [node, Node.resolve, iha, ihb]
    rfl
  | alt a b iha ihb =>
    rw [node, Node.resolve, iha, ihb]
    rfl
  | repeated greedy least most body ih =>
    rw [node, Node.resolve, ih]
    rfl

/-- A tree with nothing in it has the empty text. -/
theorem matches_nil_of_isEmpty {t : Simple} (h : (t.node : Node ρ).isEmpty = true) :
    t.Matches [] := by
  induction t with
  | empty => exact .empty
  | char test => cases h
  | seq a b iha ihb =>
    obtain ⟨ha, hb⟩ := Bool.and_eq_true_iff.mp h
    exact .seq (iha ha) (ihb hb)
  | alt a b iha ihb => exact .left (iha (Bool.and_eq_true_iff.mp h).1)
  | repeated greedy least most body ih => cases h

theorem not_matches_of_matchesAll {t : Simple} {text : List Char}
    (h : (t.node : Node Nat).matchesAll text = false) : ¬ t.Matches text := fun hmatches =>
  Bool.false_ne_true (h.symm.trans ((Node.matchesAll_iff t.plain_node).mpr hmatches))

theorem takesOnly_node {kind : Char → Prop} {t : Simple}
    (h : ∀ test ∈ t.tests, ∀ c, acceptsChar false test c = true → kind c) :
    (t.node : Node Nat).TakesOnly kind := by
  induction t with
  | empty => trivial
  | char test => exact h test List.mem_cons_self
  | seq a b iha ihb =>
    obtain ⟨ha, hb⟩ := List.forall_mem_append.mp h
    exact ⟨iha ha, ihb hb⟩
  | alt a b iha ihb =>
    obtain ⟨ha, hb⟩ := List.forall_mem_append.mp h
    exact ⟨iha ha, ihb hb⟩
  | repeated greedy least most body ih => exact ih h

end Simple

end LineJoin.Pattern
