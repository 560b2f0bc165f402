import LineJoin.Proofs.Settings.KeyLines

/-!
# Trailing comments

A comment behind a line makes no difference to the key that is read from it, only to whether the
line ends with a colon. So comments leave the line of every key as it is where no key with keys
below it gets a comment, or just one that ends with a colon itself; behind such a key any other
comment moves the keys below it into the section around.
-/

namespace LineJoin.Settings

/-- What a comment adds to its line. -/
def remark : Option (List Char) → List Char
  | none => []
  | some comment => ' ' :: '#' :: ' ' :: comment

/-- The lines of a text with comments added to some of them, by their numbers. -/
def annotate (comments : Nat → Option (List Char)) (lines : List (List Char)) : List (List Char) :=
  lines.mapIdx fun i line => line ++ remark (comments (i + 1))

def endsWithColon (cs : List Char) : Bool := (dropEnd isBlank cs).getLast? == some ':'

/-! ## One line -/

section Line

variable {line : List Char}

/-- Only the first character that is not blank decides whether a line is passed over. -/
theorem isPassedOver_strip (line : List Char) :
    isPassedOver (strip line) = isPassedOver (line.dropWhile isBlank) := by
  rw [strip, trim]
  cases hline : line.dropWhile isBlank with
  | nil => rfl
  | cons c rest =>
    have hc : isBlank c = false := by
      have hhead := List.head_dropWhile_not isBlank (by rw [hline]; exact List.cons_ne_nil _ _)
      simpa only [hline, List.head_cons] using hhead
    rw [dropEnd_cons hc]
    rfl

theorem isPassedOver_remark (h : isPassedOver (strip line) = true) (comment : Option (List Char)) :
    isPassedOver (strip (line ++ remark comment)) = true := by
  cases comment with
  | none => rwa [remark, List.append_nil]
  | some comment =>
    rw [isPassedOver_strip] at h ⊢
    rw [List.dropWhile_append]
    cases hline : line.dropWhile isBlank with
    | nil => rfl
    | cons c rest => rwa [hline] at h

/-- A comment that ends with a colon keeps a colon at the end of its line. -/
theorem opens_remark {comment : List Char} (h : endsWithColon comment = true) (after : List Char) :
    opens (after ++ remark (some comment)) = true := by
  rw [endsWithColon, beq_iff_eq] at h
  have hne : (dropEnd isBlank comment).isEmpty = false := by
    cases hcomment : dropEnd isBlank comment with
    | nil => rw [hcomment] at h; cases h
    | cons c rest => rfl
  have hsplit : after ++ remark (some comment) = (after ++ [' ', '#', ' ']) ++ comment := by
    rw [remark, List.append_assoc]
    rfl
  rw [opens, hsplit, dropEnd_append, hne, if_neg Bool.false_ne_true, List.getLast?_append, h]
  rfl

end Line

/-! ## Outlines with comments -/

namespace Outline

/-- An outline with comments added to some of its lines. -/
def annotate (comments : Nat → Option (List Char)) (number : Nat) : Outline → Outline
  | done => done
  | aside line rest =>
    aside (line ++ remark (comments number)) (rest.annotate comments (number + 1))
  | entry indent key after inner rest =>
    entry indent key (after ++ remark (comments number)) (inner.annotate comments (number + 1))
      (rest.annotate comments (number + 1 + inner.lines.length))

/-- The lines of keys that have keys below them. -/
def headings (number : Nat) : Outline → List Nat
  | done => []
  | aside _ rest => rest.headings (number + 1)
  | entry _ _ _ inner rest =>
    (if inner.keys.isEmpty then [] else [number]) ++
      (inner.headings (number + 1) ++ rest.headings (number + 1 + inner.lines.length))

variable {outline : Outline} {depth : Nat} {comments : Nat → Option (List Char)}

theorem length_annotate (outline : Outline) (comments : Nat → Option (List Char)) (number : Nat) :
    (outline.annotate comments number).lines.length = outline.lines.length := by
  induction outline generalizing number with
  | done => rfl
  | aside line rest ih => exact congrArg (· + 1) (ih _)
  | entry indent key after inner rest ihinner ihrest =>
    rw [annotate, lines, lines, List.length_cons, List.length_cons, List.length_append,
      List.length_append, ihinner, ihrest]

theorem lines_annotate (outline : Outline) (comments : Nat → Option (List Char)) (number : Nat) :
    (outline.annotate comments number).lines =
      outline.lines.mapIdx fun i line => line ++ remark (comments (number + i)) := by
  induction outline generalizing number with
  | done => rfl
  | aside line rest ih =>
    have hshift (i : Nat) : number + 1 + i = number + (i + 1) := Nat.add_right_comm number 1 i
    simp only [annotate, lines, ih, List.mapIdx_cons, hshift]
    rfl
  | entry indent key after inner rest ihinner ihrest =>
    have hshift (i : Nat) : number + 1 + i = number + (i + 1) := Nat.add_right_comm number 1 i
    have hrest (i : Nat) : number + (inner.lines.length + 1) + i =
        number + (i + inner.lines.length + 1) := by omega
    simp only [annotate, lines, ihinner, ihrest, List.mapIdx_cons, List.mapIdx_append, hshift,
      hrest, List.append_assoc]
    rfl

theorem Nested.annotate (h : Nested depth outline) (comments : Nat → Option (List Char))
    (number : Nat) : Nested depth (outline.annotate comments number) := by
  induction h generalizing number with
  | done => exact .done
  | aside hline hrest ih => exact .aside (isPassedOver_remark hline _) (ih _)
  | entry hdepth hindent hkey hinside hinner hrest ihinner ihrest =>
    exact .entry hdepth hindent hkey hinside (ihinner _) (ihrest _)

theorem places_of_keys_eq_nil (h : outline.keys = []) (parents : List (List Char)) (number : Nat) :
    outline.places parents number = [] := by
  induction outline generalizing number with
  | done => rfl
  | aside line rest ih => exact ih h _
  | entry indent key after inner rest _ _ => cases h

theorem keys_annotate (outline : Outline) (comments : Nat → Option (List Char)) (number : Nat) :
    (outline.annotate comments number).keys = outline.keys := by
  induction outline generalizing number with
  | done => rfl
  | aside line rest ih => exact ih _
  | entry indent key after inner rest _ ih => exact congrArg (key :: ·) (ih _)

/-- Comments leave the places as they are, if those behind a key with keys below it end with a
colon. -/
theorem places_annotate {admits : String → Bool} {entries : Entries}
    (h : outline.Renders admits depth entries) {number : Nat}
    (hcomments : ∀ n ∈ outline.headings number, ∀ comment, comments n = some comment →
      endsWithColon comment = true) (parents : List (List Char)) :
    (outline.annotate comments number).places parents number = outline.places parents number := by
  induction h generalizing number parents with
  | done => rfl
  | aside hline hrest ih => exact ih hcomments parents
  | field hdepth hindent hkey hv scalar hrest ih =>
    rw [annotate, places, places]
    exact congrArg (_ :: ·) (ih (fun n hn => hcomments n (List.mem_append_right _ hn)) parents)
  | @«section» depth inside entries fields indent key inner rest hdepth hindent hkey hinside hinner
      hrest ihinner ihrest =>
    rw [headings] at hcomments
    have hin := ihinner fun n hn =>
      hcomments n (List.mem_append_right _ (List.mem_append_left _ hn))
    have hre := ihrest fun n hn =>
      hcomments n (List.mem_append_right _ (List.mem_append_right _ hn))
    rw [annotate, places, places, length_annotate, hre]
    refine congrArg (_ :: ·) (congrArg (· ++ _) ?_)
    by_cases hkeys : inner.keys = []
    · -- Nothing is read below this key, so it does not matter where it would belong.
      rw [places_of_keys_eq_nil hkeys, places_of_keys_eq_nil ((keys_annotate _ _ _).trans hkeys)]
    · have hopens : opens ([] ++ remark (comments number)) = true := by
        cases hcomment : comments number with
        | none => rfl
        | some comment =>
          refine opens_remark (hcomments number (List.mem_append_left _ ?_) comment hcomment) []
          rw [if_neg fun hempty => hkeys (List.isEmpty_iff.mp hempty)]
          exact List.mem_singleton.mpr rfl
      have hbare : opens [] = true := rfl
      rw [if_pos hopens, if_pos hbare, hin]

end Outline

/-- With comments behind some of its lines, a text in block style has the lines of its keys where
the keys are read with these comments: below a key whose line ends with a colon no more, they stand
in the section around it. Nothing changes if no key with keys below it gets a comment, or only one
that ends with a colon. -/
theorem lineOf?_annotate {depth : Nat} {entries : Entries} {outline : Outline}
    (h : outline.Renders (fun key => startsKey key.toList) depth entries)
    (comments : Nat → Option (List Char)) (path : String) :
    lineOf? path (annotate comments outline.lines) =
        ((outline.annotate comments 1).places [] 1).lookup (cutAt '.' path.toList) ∧
      ((∀ n ∈ outline.headings 1, ∀ comment, comments n = some comment →
          endsWithColon comment = true) →
        lineOf? path (annotate comments outline.lines) = lineOf? path outline.lines) := by
  have hnested := h.nested
  have hlines : annotate comments outline.lines = (outline.annotate comments 1).lines := by
    rw [Outline.lines_annotate, annotate]
    simp only [Nat.add_comm 1]
  rw [hlines, Outline.lineOf?_lines (hnested.annotate comments 1), Outline.lineOf?_lines hnested]
  exact ⟨rfl, fun hcomments => by rw [Outline.places_annotate h hcomments]⟩

/-- Comments behind a field, on a blank line and, with a colon at its end, behind a section. -/
def sampleComments : Nat → Option (List Char)
  | 2 => some "one section for each target:".toList
  | 5 => some "or DEBUG".toList
  | 6 => some "without a target".toList
  | _ => none

/-- One comment behind a section. -/
def hidingComment : Nat → Option (List Char)
  | 3 => some "to the terminal".toList
  | _ => none

/-- Behind its section a comment makes the search miss a key, and find its line for another. -/
theorem lineOf?_annotate_level :
    lineOf? "logging.console.level" (annotate sampleComments sampleOutline.lines) = some 5 ∧
      lineOf? "logging.console.level" (annotate hidingComment sampleOutline.lines) = none ∧
      lineOf? "logging.level" (annotate hidingComment sampleOutline.lines) = some 5 := by
  have hrenders := renders_sampleOutline.imp fun _ => startsKey_of_isPlainKey
  refine ⟨((lineOf?_annotate hrenders sampleComments _).2 ?_).trans ?_,
    (lineOf?_annotate hrenders hidingComment _).1.trans ?_,
    (lineOf?_annotate hrenders hidingComment _).1.trans ?_⟩
  · have hheadings : sampleOutline.headings 1 = [2, 3] := by decide +kernel
    intro n hn comment hcomment
    rw [hheadings] at hn
    rcases List.mem_cons.mp hn with rfl | hn
    · cases hcomment
      decide +kernel
    · cases List.mem_singleton.mp hn
      cases hcomment
  all_goals decide +kernel

end LineJoin.Settings
