import DiceLanguage.Proofs.Formula.Legible
import DiceLanguage.Proofs.Rendering

/-!
# What is written determines the roll

The formula, the relation and the target of a roll are read off its text, and
each of them is determined by its own text. Main statement:
`Roll.eq_of_render_eq`.
-/

set_option autoImplicit false

namespace DiceLanguage

open Text

theorem Target.render_injective : Function.Injective render := by
  intro target other same
  cases target with
  | value word =>
      cases other with
      | value otherWord =>
          rw [Numeral.written_injective (String.ofList_injective same)]
      | query => exact absurd same (render_value_ne_queryMark word)
  | query =>
      cases other with
      | value otherWord => exact absurd same.symm (render_value_ne_queryMark otherWord)
      | query => rfl

theorem Relation.symbol_injective : Function.Injective symbol := by
  intro relation other same
  have spelled := relation.ofText?_symbol
  rw [same, ofText?_symbol] at spelled
  exact (Option.some.inj spelled).symm

namespace Roll

variable {first second : Roll}

private theorem check_eq_of_wording_eq (same : first.wording = second.wording) :
    first.check = second.check := by
  have either := congrArg Wording.hasCheck same
  cases checked : first.check with
  | none =>
      cases otherChecked : second.check with
      | none => rfl
      | some other =>
          rw [hasCheck_wording_of_none checked, hasCheck_wording otherChecked] at either
          cases either
  | some check =>
      cases otherChecked : second.check with
      | none =>
          rw [hasCheck_wording checked, hasCheck_wording_of_none otherChecked] at either
          cases either
      | some other =>
          have relations := congrArg Wording.relation same
          have targets := congrArg Wording.trimmedTarget same
          rw [relation_wording checked, relation_wording otherChecked] at relations
          rw [trimmedTarget_wording checked, trimmedTarget_wording otherChecked] at targets
          obtain ⟨relation, target⟩ := check
          obtain ⟨otherRelation, otherTarget⟩ := other
          obtain rfl : relation = otherRelation := Relation.symbol_injective relations
          obtain rfl : target = otherTarget := Target.render_injective targets
          rfl

/-- No two rolls are written the same when their formulas are built by the
folding constructors, with nothing but non-negative literals in the places of
dice. -/
theorem eq_of_render_eq (firstBuilt : first.formula.IsBuilt) (secondBuilt : second.formula.IsBuilt)
    (same : first.render = second.render) : first = second := by
  have wordings : first.wording = second.wording := by
    rw [← Wording.ofInput_render, same, Wording.ofInput_render]
  have texts : first.formula.render = second.formula.render := congrArg Wording.formula wordings
  have formulas := firstBuilt.isReduced.eq_of_written_eq secondBuilt.isReduced
    (String.ofList_injective texts)
  have checks := check_eq_of_wording_eq wordings
  obtain ⟨formula, check⟩ := first
  obtain ⟨otherFormula, otherCheck⟩ := second
  rw [mk.injEq]
  exact ⟨formulas, checks⟩

/-- Both are written `-(2+3)>?`. -/
theorem eq_of_render_eq_folded :
    ((Formula.number 2).join .add (.number 3)).negate.IsBuilt ∧
      ((Formula.number 2).join .subtract (.number (-3))).negate.IsBuilt ∧
      (mk ((Formula.number 2).join .add (.number 3)).negate (some ⟨.greater, .query⟩)).render =
        (mk ((Formula.number 2).join .subtract (.number (-3))).negate
          (some ⟨.greater, .query⟩)).render ∧
      mk ((Formula.number 2).join .add (.number 3)).negate (some ⟨.greater, .query⟩) =
        mk ((Formula.number 2).join .subtract (.number (-3))).negate
          (some ⟨.greater, .query⟩) := by
  have added : ((Formula.number 2).join .add (.number 3)).negate.IsBuilt :=
    .negate (.join .add (.number 2) (.number 3))
  have subtracted : ((Formula.number 2).join .subtract (.number (-3))).negate.IsBuilt :=
    .negate (.join .subtract (.number 2) (.number (-3)))
  have same : (mk ((Formula.number 2).join .add (.number 3)).negate
        (some ⟨.greater, .query⟩)).render =
      (mk ((Formula.number 2).join .subtract (.number (-3))).negate
        (some ⟨.greater, .query⟩)).render := by
    decide +kernel
  exact ⟨added, subtracted, same, eq_of_render_eq added subtracted same⟩

end Roll

end DiceLanguage
