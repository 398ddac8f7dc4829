import DiceLanguage.Proofs.Formula.Folding
import DiceLanguage.Proofs.Word

/-!
# Values of formulas

The integer that a formula stands for, without any bound, once it is settled
what dice and quotients are worth. Folding signs keeps this value as long as
the least word is not negated.
-/

set_option autoImplicit false

namespace DiceLanguage

/-- What dice are worth for their number, sides and critical number, and what
quotients are worth. -/
structure Valuation where
  roll : Int → Int → Option Int → Int
  quotient : Int → Int → Option Rounding → Int

def Operator.applied : Operator → Int → Int → Int
  | .add, left, right => left + right
  | .subtract, left, right => left - right
  | .multiply, left, right => left * right

namespace Formula

variable (valuation : Valuation)

def value : Formula → Int
  | .number literal => literal.toInt
  | .binary left operator right => operator.applied left.value right.value
  | .quotient dividend divisor rounding =>
      valuation.quotient dividend.value divisor.value rounding
  | .negation operand => -operand.value
  | .dice times sides => valuation.roll times.value sides.value none
  | .criticalDice times sides critical =>
      valuation.roll times.value sides.value (some critical.value)

/-- No literal but one above the least word. -/
def IsTurnable (formula : Formula) : Prop :=
  ∀ literal, formula = .number literal → literal ≠ Int64.minValue

theorem value_negate {formula : Formula} (turnable : formula.IsTurnable) :
    formula.negate.value valuation = -formula.value valuation := by
  cases formula with
  | number literal => exact toInt_neg_of_ne_least (turnable literal rfl)
  | negation operand =>
      simp only [negate, value]
      omega
  | _ => rfl

theorem value_join {left right : Formula} (turnable : right.IsTurnable) (operator : Operator) :
    (left.join operator right).value valuation =
      operator.applied (left.value valuation) (right.value valuation) := by
  cases right with
  | number literal =>
      simp only [join]
      split
      next turned =>
        have negated := toInt_neg_of_ne_least (turnable literal rfl)
        cases operator with
        | add =>
            simp only [Operator.flipped, value, Operator.applied, negated]
            omega
        | subtract =>
            simp only [Operator.flipped, value, Operator.applied, negated]
            omega
        | multiply => simp [Operator.isAdditive] at turned
      next => rfl
  | _ => rfl

end Formula

end DiceLanguage
