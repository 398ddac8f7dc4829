import DiceLanguage.Proofs.Formula.Subformulas
import DiceLanguage.Proofs.Rendering

/-!
# Formulas that can be read

The formulas that inputs are read as, malformed inputs included, are exactly
the canonical ones. In none of them does a negation stand before anything but
dice, or a negative literal to the right of `+` or `-`.
-/

set_option autoImplicit false

namespace DiceLanguage

open Text Formula

namespace Reader

variable (reader : Reader)

theorem isCanonical_formula_read (input : String) :
    (reader.read input).roll.formula.IsCanonical := by
  rw [read_eq]
  exact Reading.formula_ofTokens_isCanonical _

/-- A canonical formula is read from what is written for it, whatever relations
and targets mean to the reader. -/
theorem formula_read_render {formula : Formula} (canonical : formula.IsCanonical) :
    (reader.read formula.render).roll.formula = formula := by
  have divided : reader.wording formula.render = (Roll.mk formula none).wording := by
    have written := Wording.ofInput_render ⟨formula, none⟩
    simp only [Roll.render] at written
    rw [wording, written, Roll.folding_wording]
  have tokens : reader.tokens formula.render = Token.scan formula.render := by
    rw [Reader.tokens, divided]
    rfl
  rw [read_eq, reading, tokens, Reading.ofTokens_scan_render canonical]

/-- A formula is read from some input exactly when it is canonical, and so no
sign that could be folded is left anywhere in it. -/
theorem exists_formula_read_iff_isCanonical :
    (∀ formula, (∃ input, (reader.read input).roll.formula = formula) ↔ formula.IsCanonical) ∧
    ∀ input,
      (∀ operand, negation operand ∈ (reader.read input).roll.formula.subformulas →
        operand.IsRoll) ∧
      ∀ left operator value, operator.isAdditive = true →
        binary left operator (number value) ∈ (reader.read input).roll.formula.subformulas →
        0 ≤ value := by
  refine ⟨fun formula => ⟨?_, ?_⟩, fun input => ⟨?_, ?_⟩⟩
  · rintro ⟨input, rfl⟩
    exact reader.isCanonical_formula_read input
  · intro canonical
    exact ⟨formula.render, reader.formula_read_render canonical⟩
  · intro operand member
    have canonical := (reader.isCanonical_formula_read input).isCanonical_of_mem member
    exact canonical.isRoll_of_negation
  · intro left operator value additive member
    have canonical := (reader.isCanonical_formula_read input).isCanonical_of_mem member
    exact canonical.nonneg_of_joined additive

end Reader

end DiceLanguage
