import DiceLanguage.Proofs.Formula.Folding

/-!
# Values of formulas as words

The 64-bit word that a formula stands for when all arithmetic wraps around.
Folding signs keeps this value for every formula: the least word is its own
negation, so turning the operator before it changes nothing either.
-/

set_option autoImplicit false

namespace DiceLanguage

structure WordValuation where
  roll : Int64 → Int64 → Option Int64 → Int64
  quotient : Int64 → Int64 → Option Rounding → Int64

def Operator.wrapped : Operator → Int64 → Int64 → Int64
  | .add, left, right => left + right
  | .subtract, left, right => left - right
  | .multiply, left, right => left * right

theorem Operator.wrapped_flipped {operator : Operator} (additive : operator.isAdditive = true)
    (left right : Int64) : operator.flipped.wrapped left (-right) = operator.wrapped left right := by
  cases operator with
  | add => exact Int64.sub_neg
  | subtract => exact (Int64.sub_eq_add_neg left right).symm
  | multiply => cases additive

namespace Formula

variable (valuation : WordValuation)

def wordValue : Formula → Int64
  | .number word => word
  | .binary left operator right => operator.wrapped left.wordValue right.wordValue
  | .quotient dividend divisor rounding =>
      valuation.quotient dividend.wordValue divisor.wordValue rounding
  | .negation operand => -operand.wordValue
  | .dice times sides => valuation.roll times.wordValue sides.wordValue none
  | .criticalDice times sides critical =>
      valuation.roll times.wordValue sides.wordValue (some critical.wordValue)

@[simp] theorem wordValue_negate (formula : Formula) :
    formula.negate.wordValue valuation = -formula.wordValue valuation := by
  cases formula with
  | negation operand => exact Int64.neg_neg.symm
  | _ => rfl

@[simp] theorem wordValue_join (left : Formula) (operator : Operator) (right : Formula) :
    (left.join operator right).wordValue valuation =
      operator.wrapped (left.wordValue valuation) (right.wordValue valuation) := by
  cases right with
  | number word =>
      simp only [join]
      split
      next turns =>
        rw [Bool.and_eq_true] at turns
        exact Operator.wrapped_flipped turns.1 _ word
      next => rfl
  | _ => rfl

theorem wordValue_folded (formula : Formula) :
    formula.folded.wordValue valuation = formula.wordValue valuation := by
  induction formula with
  | number word => rfl
  | binary left operator right leftKept rightKept => simp [folded, wordValue, leftKept, rightKept]
  | quotient dividend divisor rounding dividendKept divisorKept =>
      simp [folded, wordValue, dividendKept, divisorKept]
  | negation operand kept => simp [folded, wordValue, kept]
  | dice times sides timesKept sidesKept => simp [folded, wordValue, timesKept, sidesKept]
  | criticalDice times sides critical timesKept sidesKept criticalKept =>
      simp [folded, wordValue, timesKept, sidesKept, criticalKept]

end Formula

end DiceLanguage
