import DiceLanguage.Formula
import DiceLanguage.Text.Numeral

/-!
# Writing formulas

A formula is written with the fewest parentheses that its operators'
precedence asks for. The operators group to the left, so a right operand needs
parentheses already at its operator's own precedence.
-/

set_option autoImplicit false

namespace DiceLanguage

open Text

def Operator.precedence : Operator → Nat
  | .add | .subtract => 1
  | .multiply => 2

namespace Formula

def precedence : Formula → Nat
  | .binary _ operator _ => operator.precedence
  | .quotient .. => Operator.multiply.precedence
  | .number _ | .negation _ | .dice .. | .criticalDice .. => 4

/-- An operand's characters, in parentheses when it binds less tightly than
its place asks for. -/
def enclosed (operand : Formula) (least : Nat) (characters : List Char) : List Char :=
  if operand.precedence < least then '(' :: characters ++ [')'] else characters

def written : Formula → List Char
  | .number value => Numeral.written value
  | .binary left operator right =>
      left.enclosed operator.precedence left.written ++
        operator.symbol :: right.enclosed (operator.precedence + 1) right.written
  | .quotient dividend divisor rounding =>
      dividend.enclosed Operator.multiply.precedence dividend.written ++
        '/' :: divisor.enclosed (Operator.multiply.precedence + 1) divisor.written ++
          (rounding.map Rounding.symbol).toList
  | .negation operand => '-' :: operand.enclosed 4 operand.written
  | .dice times sides =>
      times.enclosed 4 times.written ++ 'D' :: sides.enclosed 4 sides.written
  | .criticalDice times sides critical =>
      times.enclosed 4 times.written ++ 'D' :: sides.enclosed 4 sides.written ++
        '@' :: critical.enclosed 4 critical.written

def render (formula : Formula) : String := String.ofList formula.written

end Formula

end DiceLanguage
