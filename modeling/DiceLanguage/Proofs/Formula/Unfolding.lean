import DiceLanguage.Proofs.Formula.Canonical

/-!
# Unfolding formulas

A canonical formula comes from a formula whose literals are not negative: a
negative literal is the negation of a positive one.
-/

set_option autoImplicit false

namespace DiceLanguage.Formula

/-- The formula with a negation for each negative literal outside of dice. -/
def unfolded : Formula → Formula
  | .number value => if value < 0 then .negation (.number (-value)) else .number value
  | .binary left operator right => .binary left.unfolded operator right.unfolded
  | .quotient dividend divisor rounding => .quotient dividend.unfolded divisor.unfolded rounding
  | formula => formula

private theorem IsFactor.folded_unfolded {formula : Formula} (factor : IsFactor formula) :
    formula.unfolded.folded = formula := by
  cases factor with
  | number notLeast =>
      rw [unfolded]
      split
      · simp only [folded, negate_number, Int64.neg_neg]
      · rfl
  | roll roll => cases roll <;> rfl
  | negation roll => cases roll <;> rfl

private theorem IsProduct.folded_unfolded {formula : Formula} (product : IsProduct formula) :
    formula.unfolded.folded = formula := by
  induction product with
  | factor factor => exact factor.folded_unfolded
  | times _ factor ih => rw [unfolded, folded, ih, factor.folded_unfolded, join_multiply]
  | divided _ factor ih => rw [unfolded, folded, ih, factor.folded_unfolded]

private theorem join_of_nonneg {left right : Formula} {operator : Operator}
    (nonneg : ∀ value, right = .number value → 0 ≤ value) :
    left.join operator right = .binary left operator right := by
  cases right with
  | number value =>
      have notNegative : ¬value < 0 := Int64.not_lt.mpr (nonneg value rfl)
      simp [join, notNegative]
  | _ => rfl

theorem IsCanonical.folded_unfolded {formula : Formula} (canonical : IsCanonical formula) :
    formula.unfolded.folded = formula := by
  induction canonical with
  | product product => exact product.folded_unfolded
  | joined _ product nonneg ih =>
      rw [unfolded, folded, ih, product.folded_unfolded, join_of_nonneg nonneg]

end DiceLanguage.Formula
