import LineJoin.Settings.Lines

/-!
# Outlines

An outline is a text in block style: every line holds one key, and what is below a key stands on
deeper lines. Blank lines, comments and list items may come in between. The search for the line of a
key goes through an outline as through a list of places, in which the keys below a line stand in the
section of its key if the line ends with a colon, and in the section around it otherwise.
-/

namespace LineJoin.Settings

/-- A text in block style. What is below a key comes before what follows it. -/
inductive Outline where
  | done
  /-- A blank line, a comment or a list item. -/
  | aside (line : List Char) (rest : Outline)
  /-- A key with what stands before it and after its colon, and the lines below it. -/
  | entry (indent : List Char) (key : String) (after : List Char) (inner rest : Outline)

/-- A text that starts with neither a blank nor a mark of comments and list items. -/
def startsKey (cs : List Char) : Bool := !isPassedOver cs && !cs.head?.any isBlank

namespace Outline

def lines : Outline → List (List Char)
  | done => []
  | aside line rest => line :: rest.lines
  | entry indent key after inner rest =>
    (indent ++ (key.toList ++ ':' :: after)) :: (inner.lines ++ rest.lines)

/-- Keys of one mapping are equally deep, and those below a key are deeper. -/
inductive Nested : Nat → Outline → Prop
  | done {depth : Nat} : Nested depth done
  | aside {depth : Nat} {line : List Char} {rest : Outline}
      (hline : isPassedOver (strip line) = true) (hrest : Nested depth rest) :
      Nested depth (aside line rest)
  | entry {depth inside : Nat} {indent : List Char} {key : String} {after : List Char}
      {inner rest : Outline} (hdepth : indent.length = depth) (hindent : indent.all isBlank = true)
      (hkey : startsKey key.toList = true) (hinside : depth < inside)
      (hinner : Nested inside inner) (hrest : Nested depth rest) :
      Nested depth (entry indent key after inner rest)

end Outline

/-! ## One line -/

section Line

variable {p : Char → Bool} {c : Char} {indent text : List Char}

theorem dropEnd_append (p : Char → Bool) (cs ds : List Char) :
    dropEnd p (cs ++ ds) = if (dropEnd p ds).isEmpty then dropEnd p cs else cs ++ dropEnd p ds := by
  rw [dropEnd, dropEnd, dropEnd, List.reverse_append, List.dropWhile_append, List.isEmpty_reverse]
  split
  · rfl
  · rw [List.reverse_append, List.reverse_reverse]

theorem dropEnd_cons (hc : p c = false) (cs : List Char) :
    dropEnd p (c :: cs) = c :: dropEnd p cs := by
  have hlast : dropEnd p [c] = [c] := by simp [dropEnd, hc]
  rw [← List.singleton_append, dropEnd_append, hlast]
  split
  · rename_i hempty
    rw [List.isEmpty_iff.mp hempty]
  · rfl

theorem dropEnd_append_cons (hc : p c = false) (cs ds : List Char) :
    dropEnd p (cs ++ c :: ds) = cs ++ c :: dropEnd p ds := by
  rw [dropEnd_append, dropEnd_cons hc]
  rfl

theorem startsKey_cases (h : startsKey text = true) :
    ∃ c rest, text = c :: rest ∧ isBlank c = false ∧ isPassedOver text = false := by
  rw [startsKey, Bool.and_eq_true, Bool.not_eq_true', Bool.not_eq_true'] at h
  cases text with
  | nil => cases h.1
  | cons c rest => exact ⟨c, rest, rfl, h.2, h.1⟩

/-- Stripping the line of a key leaves the key, its colon and what stands after that. -/
theorem strip_entry (hindent : indent.all isBlank = true) (htext : startsKey text = true)
    (after : List Char) :
    strip (indent ++ (text ++ ':' :: after)) = text ++ ':' :: dropEnd isBlank after := by
  obtain ⟨c, rest, rfl, hc, -⟩ := startsKey_cases htext
  rw [strip, trim, List.dropWhile_append_of_pos (List.all_eq_true.mp hindent), List.cons_append,
    List.dropWhile_cons_of_neg (by rw [hc]; exact Bool.false_ne_true), ← List.cons_append,
    dropEnd_append_cons (by decide)]

theorem indentOf_entry (hindent : indent.all isBlank = true) (htext : startsKey text = true)
    (after : List Char) : indentOf (indent ++ (text ++ ':' :: after)) = indent.length := by
  obtain ⟨c, rest, rfl, hc, -⟩ := startsKey_cases htext
  rw [indentOf, List.takeWhile_append_of_pos (List.all_eq_true.mp hindent), List.cons_append,
    List.takeWhile_cons_of_neg (by rw [hc]; exact Bool.false_ne_true), List.append_nil]

theorem isPassedOver_entry (htext : startsKey text = true) (cs : List Char) :
    isPassedOver (text ++ cs) = false := by
  obtain ⟨c, rest, rfl, -, hpassed⟩ := startsKey_cases htext
  exact hpassed

/-- Only what stands before the first colon is read as a key. -/
theorem keyOf_append_colon (cs ds : List Char) : keyOf (cs ++ ':' :: ds) = keyOf cs := by
  have hfirst : (cs ++ ':' :: ds).takeWhile (· != ':') = cs.takeWhile (· != ':') := by
    induction cs with
    | nil => rfl
    | cons c rest ih => rw [List.cons_append, List.takeWhile_cons, List.takeWhile_cons, ih]
  rw [keyOf, keyOf, hfirst]

/-- What stands after the colon of a line that ends with a colon: nothing, or a text with a colon at
its end. -/
def opens (after : List Char) : Bool := (dropEnd isBlank after).getLast?.getD ':' == ':'

theorem getLast?_entry (text after : List Char) :
    (text ++ ':' :: dropEnd isBlank after).getLast? = some ':' ↔ opens after = true := by
  rw [List.getLast?_append, List.getLast?_cons, Option.some_or, opens, beq_iff_eq, Option.some_inj]

end Line

/-! ## The places of an outline -/

namespace Outline

/-- The keys that the search comes to, each with the sections that it is taken to stand in, and
their lines. -/
def places (parents : List (List Char)) (number : Nat) : Outline → List (List (List Char) × Nat)
  | done => []
  | aside _ rest => rest.places parents (number + 1)
  | entry _ key after inner rest =>
    let path := parents ++ [keyOf key.toList]
    (path, number) :: (inner.places (if opens after then path else parents) (number + 1) ++
      rest.places parents (number + 1 + inner.lines.length))

section Search

variable {keys parents lines : List (List Char)} {sections extra : List Enclosing}
  {outline : Outline} {depth number : Nat} {indent text after : List Char}

theorem search_aside {line : List Char} (h : isPassedOver (strip line) = true) :
    search keys number sections (line :: lines) = search keys (number + 1) sections lines := by
  rw [search]
  exact if_pos h

/-- At a key the sections that are as deep as the key or deeper have come to their end. -/
theorem search_entry (hindent : indent.all isBlank = true) (htext : startsKey text = true)
    (hsections : ∀ s ∈ sections, s.indent < indent.length)
    (hextra : ∀ s ∈ extra, indent.length ≤ s.indent) :
    search keys number (extra ++ sections) ((indent ++ (text ++ ':' :: after)) :: lines) =
      if (sections.map (·.key)).reverse ++ [keyOf text] = keys then some number
      else search keys (number + 1)
        (if opens after then ⟨indent.length, keyOf text⟩ :: sections else sections) lines := by
  have hended : (extra ++ sections).dropWhile (fun s => indent.length ≤ s.indent) = sections := by
    rw [List.dropWhile_append_of_pos (by simpa using hextra)]
    cases sections with
    | nil => rfl
    | cons s rest =>
      refine List.dropWhile_cons_of_neg ?_
      simpa using hsections s List.mem_cons_self
  rw [search, strip_entry hindent htext, isPassedOver_entry htext, indentOf_entry hindent htext,
    keyOf_append_colon, if_neg Bool.false_ne_true]
  simp only [hended, getLast?_entry]
  split
  · rfl
  · split <;> rfl

/-- The search through an outline finds the first place with the keys, and goes on behind the
outline if there is none. Sections that are as deep as the outline have no effect. -/
theorem search_places (h : Nested depth outline) {tail : List (List Char)} {found : Option Nat}
    (hsections : ∀ s ∈ sections, s.indent < depth)
    (hparents : (sections.map (·.key)).reverse = parents) (hextra : ∀ s ∈ extra, depth ≤ s.indent)
    (htail : ∀ extra : List Enclosing, (∀ s ∈ extra, depth ≤ s.indent) →
      search keys (number + outline.lines.length) (extra ++ sections) tail = found) :
    search keys number (extra ++ sections) (outline.lines ++ tail) =
      ((outline.places parents number).lookup keys).or found := by
  -- Whatever sections the lines below a key leave open are as deep as the key, so what follows them
  -- is searched by the hypothesis for the rest.
  induction h generalizing number sections parents extra tail found with
  | done => exact htail extra hextra
  | aside hline hrest ih =>
    rw [Outline.lines, List.cons_append, search_aside hline, places]
    refine ih hsections hparents hextra fun extra hextra => ?_
    rw [← htail extra hextra, Outline.lines, List.length_cons, Nat.add_assoc, Nat.add_comm 1]
  | @entry depth inside indent key after inner rest hdepth hindent hkey hinside hinner hrest ihinner
      ihrest =>
    subst hdepth
    have hrest (extra : List Enclosing) (hextra : ∀ s ∈ extra, indent.length ≤ s.indent) :
        search keys (number + 1 + inner.lines.length) (extra ++ sections) (rest.lines ++ tail) =
          ((rest.places parents (number + 1 + inner.lines.length)).lookup keys).or found := by
      refine ihrest hsections hparents hextra fun extra hextra => ?_
      rw [← htail extra hextra, Outline.lines, List.length_cons, List.length_append]
      congr 1
      omega
    rw [Outline.lines, List.cons_append, search_entry hindent hkey hsections hextra, hparents,
      places, List.lookup_cons, List.append_assoc]
    by_cases hpath : parents ++ [keyOf key.toList] = keys
    · rw [if_pos hpath, hpath, beq_self_eq_true]
      rfl
    · rw [if_neg hpath, beq_eq_false_iff_ne.mpr (Ne.symm hpath), List.lookup_append,
        Option.or_assoc]
      by_cases hopens : opens after = true
      · rw [if_pos hopens, if_pos hopens]
        refine @ihinner _ _ [] _ _ _ ?_ ?_ (List.forall_mem_nil _) fun extra hextra => ?_
        · exact List.forall_mem_cons.mpr
            ⟨hinside, fun s hs => Nat.lt_trans (hsections s hs) hinside⟩
        · rw [List.map_cons, List.reverse_cons, hparents]
        · rw [List.append_cons]
          refine hrest _ fun s hs => ?_
          rcases List.mem_append.mp hs with hs | hs
          · exact Nat.le_trans (Nat.le_of_lt hinside) (hextra s hs)
          · exact List.mem_singleton.mp hs ▸ Nat.le_refl _
      · rw [if_neg hopens, if_neg hopens]
        refine @ihinner _ _ [] _ _ _ (fun s hs => Nat.lt_trans (hsections s hs) hinside) hparents
          (List.forall_mem_nil _) fun extra hextra => ?_
        exact hrest extra fun s hs => Nat.le_trans (Nat.le_of_lt hinside) (hextra s hs)

/-- The line of a key is that of the first place under its keys. -/
theorem lineOf?_lines (h : Nested depth outline) (path : String) :
    lineOf? path outline.lines = (outline.places [] 1).lookup (cutAt '.' path.toList) := by
  have hsearch : search (cutAt '.' path.toList) 1 ([] ++ []) (outline.lines ++ []) =
      ((outline.places [] 1).lookup (cutAt '.' path.toList)).or none :=
    search_places h (List.forall_mem_nil _) rfl (List.forall_mem_nil _) fun extra _ => by
      rw [search]
  rw [Option.or_none, List.append_nil outline.lines] at hsearch
  exact hsearch

end Search

end Outline

end LineJoin.Settings
