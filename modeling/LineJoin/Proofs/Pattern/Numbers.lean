import LineJoin.Pattern.Reader

/-!
# References by number

`refersByNumber` looks for the places in a pattern text where a group is referred to by its number:
a backslash and a digit, unless it begins an octal escape of three digits, a number in `\g<…>`,
`(?P=…)` or `(?(…)`, and the calls `(?1)` and `(?R)`. A text in which there are none keeps its
meaning when other groups come before its own. What is passed over in verbose patterns does not
matter: the rest of a text without such references has none either.
-/

namespace LineJoin.Pattern

open Reader

/-- The first character that is not passed over is a digit. -/
def digitFirst (text : List Char) : Bool :=
  match (skipFrom false 0 text).2 with
  | c :: _ => isDigit c
  | [] => false

/-- A number after a given character. -/
def numberAfter (opening : Char) (text : List Char) : Bool :=
  match (skipFrom false 0 text).2 with
  | c :: rest => c == opening && digitFirst rest
  | [] => false

/-- Two more octal digits. -/
def octalPair : List Char → Bool
  | c :: d :: _ => isOctal c && isOctal d
  | _ => false

/-- The number of a group after a backslash. -/
def groupNumber (c : Char) (rest : List Char) : Bool :=
  isDigit c && c != '0' && !(isOctal c && octalPair rest)

/-- A number after what follows an opening parenthesis. -/
def numberInside : List Char → Bool
  | '?' :: 'P' :: rest => numberAfter '=' rest
  | '?' :: '(' :: rest => digitFirst rest
  | '?' :: c :: _ => c == 'R' || isDigit c
  | _ => false

def refersByNumber : List Char → Bool
  | '\\' :: c :: rest =>
    groupNumber c rest || (c == 'g' && numberAfter '<' rest) || refersByNumber rest
  | '(' :: rest => numberInside rest || refersByNumber rest
  | _ :: rest => refersByNumber rest
  | [] => false

variable {c : Char} {rest text : List Char}

theorem refersByNumber_of_cons (h : refersByNumber (c :: rest) = false) (hc : c ≠ '\\') :
    refersByNumber rest = false := by
  by_cases hopen : c = '('
  · subst hopen
    rw [refersByNumber, Bool.or_eq_false_iff] at h
    exact h.2
  · rw [refersByNumber] at h
    · exact h
    · intro _ _ h
      exact absurd h hc
    · exact hopen

theorem refersByNumber_of_escape (h : refersByNumber ('\\' :: c :: rest) = false) :
    groupNumber c rest = false ∧ (c = 'g' → numberAfter '<' rest = false) ∧
      refersByNumber rest = false := by
  rw [refersByNumber] at h
  simp only [Bool.or_eq_false_iff, Bool.and_eq_false_iff, beq_eq_false_iff_ne] at h
  exact ⟨h.1.1, fun hg => h.1.2.resolve_left fun hne => hne hg, h.2⟩

theorem refersByNumber_of_open (h : refersByNumber ('(' :: rest) = false) :
    numberInside rest = false ∧ refersByNumber rest = false := by
  rw [refersByNumber, Bool.or_eq_false_iff] at h
  exact h

/-- Passing over a comment can begin between a backslash and the character after it. -/
theorem refersByNumber_skipFrom {b : Bool} {n : Nat}
    (h : refersByNumber text = false ∨ b = true ∧ refersByNumber ('\\' :: text) = false) :
    refersByNumber (skipFrom b n text).2 = false := by
  induction text generalizing b n with
  | nil => rfl
  | cons c rest ih =>
    have hrest : refersByNumber rest = false ∨ c = '\\' ∧ refersByNumber (c :: rest) = false := by
      rcases h with h | ⟨-, h⟩
      · by_cases hc : c = '\\'
        · exact .inr ⟨hc, h⟩
        · exact .inl (refersByNumber_of_cons h hc)
      · exact .inl (refersByNumber_of_escape h).2.2
    have hin {n : Nat} : refersByNumber (skipFrom true n rest).2 = false := by
      refine ih (hrest.imp_right ?_)
      rintro ⟨rfl, h⟩
      exact ⟨rfl, h⟩
    cases b with
    | true =>
      rw [skipFrom]
      split
      · rename_i hc
        exact ih (.inl (hrest.resolve_right fun h => by rw [h.1] at hc; revert hc; decide))
      · exact hin
    | false =>
      have htext := h.resolve_right fun h => Bool.false_ne_true h.1
      rw [skipFrom]
      split
      · rename_i hblank
        exact ih (.inl (hrest.resolve_right fun h => by
          rw [h.1] at hblank
          revert hblank
          decide))
      · split
        · exact hin
        · exact htext

end LineJoin.Pattern
