import DiceLanguage.Formula

/-!
# Folding formulas

A formula whose signs are kept as they were given can be folded afterwards:
every negation and every sum is put together again with the constructors that
fold signs.
-/

set_option autoImplicit false

namespace DiceLanguage.Formula

def folded : Formula → Formula
  | .number value => .number value
  | .binary left operator right => left.folded.join operator right.folded
  | .quotient dividend divisor rounding => .quotient dividend.folded divisor.folded rounding
  | .negation operand => operand.folded.negate
  | .dice times sides => .dice times.folded sides.folded
  | .criticalDice times sides critical =>
      .criticalDice times.folded sides.folded critical.folded

@[simp] theorem negate_number (value : Int64) : (number value).negate = .number (-value) := rfl

@[simp] theorem join_multiply (left right : Formula) :
    left.join .multiply right = .binary left .multiply right := by
  cases right <;> rfl

end DiceLanguage.Formula
