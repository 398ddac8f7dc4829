/-!
# Operators

The operators that join the parts of a dice formula, and the ways a quotient
may be rounded.
-/

set_option autoImplicit false

namespace DiceLanguage

/-- An operator between two formulas, division apart. -/
inductive Operator where
  | add
  | subtract
  | multiply
  deriving DecidableEq

namespace Operator

def symbol : Operator → Char
  | .add => '+'
  | .subtract => '-'
  | .multiply => '*'

/-- The operator that has the same effect on a negated right operand. For a
product this is the product itself, whose sign moves to the operand. -/
def flipped : Operator → Operator
  | .add => .subtract
  | .subtract => .add
  | .multiply => .multiply

@[simp] theorem flipped_flipped (operator : Operator) : operator.flipped.flipped = operator := by
  cases operator <;> rfl

def isAdditive : Operator → Bool
  | .add | .subtract => true
  | .multiply => false

end Operator

inductive Rounding where
  | up
  | nearest
  deriving DecidableEq

namespace Rounding

def symbol : Rounding → Char
  | .up => 'U'
  | .nearest => 'R'

end Rounding

/-- A plus or minus sign, before an operand or between the terms of a sum. -/
inductive Sign where
  | plus
  | minus
  deriving DecidableEq

def Sign.operator : Sign → Operator
  | .plus => .add
  | .minus => .subtract

/-- What joins two factors of a term. -/
inductive Scaling where
  | times
  | over
  deriving DecidableEq

end DiceLanguage
