import DiceLanguage.Formula
import DiceLanguage.Pending

/-!
# Terms as they are read

A term of a dice formula has numbers only in its places. What waits to its left
takes it in: first the signs before it, then a product, then a sum.
-/

set_option autoImplicit false

namespace DiceLanguage

/-- A term as it is read: only numbers stand in its places. -/
inductive Term where
  | number (value : Int64)
  | dice (times sides : Int64)
  | criticalDice (times sides critical : Int64)
  deriving DecidableEq

def Term.formula : Term → Formula
  | .number value => .number value
  | .dice times sides => .dice (.number times) (.number sides)
  | .criticalDice times sides critical =>
      .criticalDice (.number times) (.number sides) (.number critical)

namespace Pending

def operand (pending : Pending Formula) (term : Term) : Formula :=
  if pending.negated then term.formula.negate else term.formula

def product (pending : Pending Formula) (term : Term) (rounding : Option Rounding) : Formula :=
  match pending.factor with
  | none => pending.operand term
  | some (left, .times) => left.join .multiply (pending.operand term)
  | some (dividend, .over) => .quotient dividend (pending.operand term) rounding

end Pending

def Formula.ofLastProduct (sum : Option (Formula × Sign)) (product : Formula) : Formula :=
  match sum with
  | none => product
  | some (left, sign) => left.join sign.operator product

end DiceLanguage
