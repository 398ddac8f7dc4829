import DiceLanguage.Formula.Term
import DiceLanguage.Proofs.Formula.Folding
import DiceLanguage.Proofs.Word

/-!
# Canonical formulas

The formulas that a reading can give. Dice have only non-negative literals in
their places, a negation stands only before dice, factors are signed terms,
and no literal to the right of `+` or `-` is negative.
-/

set_option autoImplicit false

namespace DiceLanguage

namespace Formula

inductive IsRoll : Formula → Prop where
  | dice {times sides} : 0 ≤ times → 0 ≤ sides → IsRoll (.dice (.number times) (.number sides))
  | criticalDice {times sides critical} :
      0 ≤ times → 0 ≤ sides → 0 ≤ critical →
      IsRoll (.criticalDice (.number times) (.number sides) (.number critical))

inductive IsFactor : Formula → Prop where
  | number {value} : value ≠ Int64.minValue → IsFactor (.number value)
  | roll {formula} : IsRoll formula → IsFactor formula
  | negation {formula} : IsRoll formula → IsFactor (.negation formula)

inductive IsProduct : Formula → Prop where
  | factor {formula} : IsFactor formula → IsProduct formula
  | times {left right} : IsProduct left → IsFactor right → IsProduct (.binary left .multiply right)
  | divided {left right rounding} :
      IsProduct left → IsFactor right → IsProduct (.quotient left right rounding)

inductive IsCanonical : Formula → Prop where
  | product {formula} : IsProduct formula → IsCanonical formula
  | joined {left right} {sign : Sign} :
      IsCanonical left → IsProduct right → (∀ value, right = .number value → 0 ≤ value) →
      IsCanonical (.binary left sign.operator right)

theorem IsProduct.ne_least {formula : Formula} (product : IsProduct formula) {value : Int64}
    (literal : formula = .number value) : value ≠ Int64.minValue := by
  subst literal
  cases product with
  | factor factor =>
      cases factor with
      | number notLeast => exact notLeast
      | roll roll => cases roll

theorem join_isCanonical {left right : Formula} (canonical : IsCanonical left) (sign : Sign)
    (product : IsProduct right) : IsCanonical (left.join sign.operator right) := by
  have plain : (∀ value, right = .number value → 0 ≤ value) →
      IsCanonical (.binary left sign.operator right) := .joined canonical product
  have additive : sign.operator.isAdditive = true := by cases sign <;> rfl
  cases right with
  | number value =>
      have notLeast := product.ne_least rfl
      simp only [join, additive, Bool.true_and, decide_eq_true_eq]
      split
      next negative =>
        have nonneg := nonneg_neg_of_neg notLeast negative
        have turned : IsProduct (.number (-value)) :=
          .factor (.number (ne_least_of_nonneg nonneg))
        have flipped (sign : Sign) : IsCanonical (.binary left sign.operator (.number (-value))) :=
          .joined canonical turned fun _ same => by cases same; exact nonneg
        cases sign with
        | plus => exact flipped .minus
        | minus => exact flipped .plus
      next notNegative =>
        refine plain fun other same => ?_
        cases same
        exact Int64.not_lt.mp notNegative
  | _ => exact plain (by simp)

end Formula

def Term.IsNonnegative : Term → Prop
  | .number value => 0 ≤ value
  | .dice times sides => 0 ≤ times ∧ 0 ≤ sides
  | .criticalDice times sides critical => 0 ≤ times ∧ 0 ≤ sides ∧ 0 ≤ critical

theorem Term.IsNonnegative.isFactor {term : Term} (nonneg : term.IsNonnegative) :
    term.formula.IsFactor := by
  cases term with
  | number value => exact .number (ne_least_of_nonneg nonneg)
  | dice times sides => exact .roll (.dice nonneg.1 nonneg.2)
  | criticalDice times sides critical =>
      exact .roll (.criticalDice nonneg.1 nonneg.2.1 nonneg.2.2)

theorem Term.IsNonnegative.isFactor_negate {term : Term} (nonneg : term.IsNonnegative) :
    term.formula.negate.IsFactor := by
  cases term with
  | number value => exact .number (neg_ne_least_of_nonneg nonneg)
  | dice times sides => exact .negation (.dice nonneg.1 nonneg.2)
  | criticalDice times sides critical =>
      exact .negation (.criticalDice nonneg.1 nonneg.2.1 nonneg.2.2)

end DiceLanguage
