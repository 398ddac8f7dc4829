import DiceLanguage.Formula

/-!
# Assembling formulas

Formulas can be put together on a stack, with the folding constructors or with
plain nodes that keep every sign as it was given. The latest formula on the
stack becomes the rightmost part.
-/

set_option autoImplicit false

namespace DiceLanguage

/-- A step of an assembly. -/
inductive Assembly where
  /-- Puts a formula on the stack. -/
  | push (formula : Formula)
  | negate
  | join (operator : Operator)
  /-- A negation node, whatever it negates. -/
  | plainNegation
  /-- A binary node, whatever stands on its right. -/
  | plainBinary (operator : Operator)
  | quotient (rounding : Option Rounding)
  | dice
  | criticalDice
  | duplicate
  | exchange
  | discard
  deriving DecidableEq

namespace Assembly

/-- The stack after a step, the latest formula first; `none` when the stack
holds too few formulas for the step. -/
def step? : Assembly → List Formula → Option (List Formula)
  | .push formula, stack => some (formula :: stack)
  | .negate, operand :: stack => some (operand.negate :: stack)
  | .join operator, right :: left :: stack => some (left.join operator right :: stack)
  | .plainNegation, operand :: stack => some (.negation operand :: stack)
  | .plainBinary operator, right :: left :: stack =>
      some (.binary left operator right :: stack)
  | .quotient rounding, divisor :: dividend :: stack =>
      some (.quotient dividend divisor rounding :: stack)
  | .dice, sides :: times :: stack => some (.dice times sides :: stack)
  | .criticalDice, critical :: sides :: times :: stack =>
      some (.criticalDice times sides critical :: stack)
  | .duplicate, top :: stack => some (top :: top :: stack)
  | .exchange, top :: second :: stack => some (second :: top :: stack)
  | .discard, _ :: stack => some stack
  | _, _ => none

end Assembly

end DiceLanguage
