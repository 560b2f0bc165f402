import LineJoin.Proofs.Joining.ClassRules
import LineJoin.Proofs.Joining.UnitTexts

/-!
# Removing breaks again

A second run finds nothing to remove. A break is removed only in front of a character that is a unit
by itself, and what remains of a unit from such a character on is a unit again. So the joined text
ends with a unit where the text after the removed break does, and no break further on qualifies that
did not qualify before.
-/

namespace LineJoin

open Pattern

variable {x : Extensions}

/-- The text before a break ends with a unit, and the character after it is a unit. -/
def unitsAround (x : Extensions) : BreakTest := fun before next =>
  before.reverse.tails.any (isUnit x) && next.any fun c => isUnit x [c]

theorem unitsAround_iff (before : List Char) (next : Option Char) :
    unitsAround x before next = true ↔
      (∃ u, Units.UnitText x u ∧ u <:+ before.reverse) ∧
        ∃ c, next = some c ∧ Units.UnitText x [c] := by
  rw [unitsAround, Bool.and_eq_true, List.any_eq_true]
  simp only [List.mem_tails, isUnit_iff_unitText, Option.any_eq_true, and_comm]

/-- A text begins with a unit if its first character is one. -/
theorem betweenUnits_eq_unitsAround (before after : List Char) :
    betweenUnits x before after = unitsAround x before after.head? := by
  have hbegins : after.inits.any (isUnit x) = after.head?.any fun c => isUnit x [c] := by
    rw [Bool.eq_iff_iff, List.any_eq_true, ← exists_unit_prefix_iff]
    simp only [List.mem_inits, and_comm]
  rw [betweenUnits, hbegins, unitsAround]

theorem between_unitsAround : (unitsAround x).Between := by
  constructor
  · intro c r next hc
    rw [Bool.eq_false_iff, ne_eq, unitsAround_iff]
    rintro ⟨⟨u, hu, hsuffix⟩, -⟩
    obtain ⟨d, t, rfl, -⟩ := hu.exists_first
    rw [List.reverse_cons, List.suffix_concat_iff] at hsuffix
    obtain ⟨v, hv, -⟩ := hsuffix.resolve_left (List.cons_ne_nil _ _)
    have hplain := hu.isBreakChar c (by rw [hv]; simp)
    rw [hc] at hplain
    cases hplain
  · intro r next hjoins
    obtain ⟨-, c, rfl, hc⟩ := (unitsAround_iff r next).mp hjoins
    exact ⟨c, rfl, hc.isBreakChar c List.mem_cons_self⟩

/-- Whether a text ends with a unit does not depend on what stands before a character in it that is
a unit. -/
theorem exists_unit_suffix_iff {c : Char} (hc : Units.UnitText x [c]) (w r : List Char) :
    (∃ u, Units.UnitText x u ∧ u <:+ w ++ c :: r) ↔ ∃ u, Units.UnitText x u ∧ u <:+ c :: r := by
  constructor
  · rintro ⟨u, hu, hsuffix⟩
    rcases List.suffix_or_suffix_of_suffix hsuffix (List.suffix_append w (c :: r)) with h | ⟨v, rfl⟩
    · exact ⟨u, hu, h⟩
    · by_cases hv : v = []
      · rw [hv] at hu
        exact ⟨_, hu, List.suffix_refl _⟩
      · exact ⟨c :: r, hu.remainder hv hc, List.suffix_refl _⟩
  · rintro ⟨u, hu, hsuffix⟩
    exact ⟨u, hu, hsuffix.trans (List.suffix_append w (c :: r))⟩

theorem unseen_unitsAround : (unitsAround x).Unseen (unitsAround x) := by
  intro u c b v next hjoins _
  obtain ⟨-, _, hnext, hc⟩ := (unitsAround_iff u (some c)).mp hjoins
  obtain rfl := Option.some.inj hnext
  have hreverse (t : List Char) : (v ++ c :: t).reverse = t.reverse ++ c :: v.reverse := by simp
  rw [Bool.eq_iff_iff, unitsAround_iff, unitsAround_iff, hreverse, hreverse,
    exists_unit_suffix_iff hc, exists_unit_suffix_iff hc]

/-- Without additional rules the breaks with units around them go. -/
theorem rewriteText_units {o : Options} (h : o.additionalRules = []) :
    ∃ ps, compileRules o = .ok ps ∧
      ∀ text, rewriteText ps text = deleteWhere (unitsAround o.extensions) [] text := by
  obtain ⟨ps, hps, hdelete⟩ := rewriteText_betweenUnits h
  refine ⟨ps, hps, fun text => (hdelete text).trans ?_⟩
  exact congrArg (deleteBreaks · [] text) (funext₂ betweenUnits_eq_unitsAround)

/-- Removing breaks from what is left changes nothing more: without additional rules, and with
rules that have bracket classes if emoji are no units. -/
theorem removeBreaks_idempotent {data : Value} {o : Options} {records : List Record}
    (ho : (Options.ofValue data).outcome = (.ok o, records))
    (h : o.additionalRules = [] ∨
      o.extensions.emoji = false ∧ ∀ r ∈ o.additionalRules, r.HasClassSides) (text : String) :
    ∃ out, (removeBreaks (.str text) data).outcome = (.ok out, records) ∧
      (removeBreaks (.str out) data).outcome = (.ok out, records) := by
  obtain ⟨d, ps, hps, hdelete, hbetween, hunseen⟩ : ∃ (d : BreakTest) (ps : List Pattern),
      compileRules o = .ok ps ∧ (∀ t, rewriteText ps t = deleteWhere d [] t) ∧ d.Between ∧
        d.Unseen d := by
    rcases h with hrules | ⟨hemoji, hclass⟩
    · obtain ⟨ps, hps, hdelete⟩ := rewriteText_units hrules
      exact ⟨_, ps, hps, hdelete, between_unitsAround, unseen_unitsAround⟩
    · have hrules := Options.hasClassSides hclass
      obtain ⟨ps, hps, hdelete⟩ := rewriteText_eq_deleteWhere hemoji hrules
      exact ⟨_, ps, hps, hdelete, between_joinedBySome hemoji hrules, unseen_joinedBySome _ _⟩
  refine ⟨_, removeBreaks_deleteWhere ho hps hdelete text, ?_⟩
  rw [removeBreaks_deleteWhere ho hps hdelete, String.toList_ofList,
    deleteWhere_idempotent hbetween hunseen]

/-- With emoji as units, where two halves of a flag are joined, and with a letter admitted before a
break. -/
theorem removeBreaks_idempotent_flag :
    let emoji : Value := .dict [(.str "includeEmoji", .bool true)]
    let letter : Rule := ⟨some "[a-z]", none⟩
    let data : Value := .dict [(.str "additionalRegexpPairs", .list [.rule letter])]
    let o : Options := { additionalRules := [letter] }
    ((Options.ofValue emoji).outcome = (.ok { extensions := { emoji := true } }, []) ∧
        ∃ out, (removeBreaks (.str "🇯\n🇵\n字") emoji).outcome = (.ok out, []) ∧
          (removeBreaks (.str out) emoji).outcome = (.ok out, [])) ∧
      (Options.ofValue data).outcome = (.ok o, []) ∧ o.extensions.emoji = false ∧
        (∀ r ∈ o.additionalRules, r.HasClassSides) ∧
        ∃ out, (removeBreaks (.str "a\n字\nb") data).outcome = (.ok out, []) ∧
          (removeBreaks (.str out) data).outcome = (.ok out, []) := by
  intro emoji letter data o
  have hemoji : (Options.ofValue emoji).outcome = (.ok { extensions := { emoji := true } }, []) := by
    rfl
  have hdata : (Options.ofValue data).outcome = (.ok o, []) := by rfl
  have hrules : ∀ r ∈ o.additionalRules, r.HasClassSides :=
    List.forall_mem_singleton.mpr ⟨classSide_of_isClass isClass_letters (by decide), classSide_none⟩
  exact ⟨⟨hemoji, removeBreaks_idempotent hemoji (.inl rfl) _⟩, hdata, rfl, hrules,
    removeBreaks_idempotent hdata (.inr ⟨rfl, hrules⟩) _⟩

end LineJoin
