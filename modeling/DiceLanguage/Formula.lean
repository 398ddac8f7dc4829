import DiceLanguage.Operator

/-!
# Dice formulas

The tree of a dice formula, and the constructors that fold signs while a tree
is built: negation is absorbed by a literal or cancels another negation, and a
sum or difference with a negative literal on its right turns into the other
one. Folding keeps the value of the tree in the arithmetic of 64-bit words.
-/

set_option autoImplicit false

namespace DiceLanguage

/-- A dice formula. The dice of a roll, their sides and the critical number
may be any formulas. -/
inductive Formula where
  | number (value : Int64)
  | binary (left : Formula) (operator : Operator) (right : Formula)
  | quotient (dividend divisor : Formula) (rounding : Option Rounding)
  | negation (operand : Formula)
  | dice (times sides : Formula)
  | criticalDice (times sides critical : Formula)
  deriving DecidableEq

namespace Formula

def literal? : Formula → Option Int64
  | .number value => some value
  | _ => none

/-- The negation of a formula. The least word is its own negation. -/
def negate : Formula → Formula
  | .number value => .number (-value)
  | .negation operand => operand
  | formula => .negation formula

/-- Two formulas joined by an operator. A negative literal to the right of `+`
or `-` is made positive by flipping the operator; the least word stays. -/
def join (left : Formula) (operator : Operator) : Formula → Formula
  | .number value =>
      if operator.isAdditive && value < 0 then
        .binary left operator.flipped (.number (-value))
      else
        .binary left operator (.number value)
  | right => .binary left operator right

end Formula

end DiceLanguage
