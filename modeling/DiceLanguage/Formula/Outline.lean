import DiceLanguage.Formula
import DiceLanguage.Text.Numeral
import DiceLanguage.Text.Outline

/-!
# Outlines of formulas

Every node of a formula's tree with its name and its parts, for a reader who
wants to see how a formula was understood.
-/

set_option autoImplicit false

namespace DiceLanguage

open Text

def Operator.name : Operator → String
  | .add => "Add"
  | .subtract => "Sub"
  | .multiply => "Mul"

def Rounding.name : Rounding → String
  | .up => "Up"
  | .nearest => "Nearest"

namespace Formula

def diceOutline (times sides : Outline) (critical : Option Outline) : Outline :=
  .application "Dice"
    [.record "DiceRoll"
      [("times", times), ("sides", sides), ("critical", .optional critical)]]

def outline : Formula → Outline
  | .number value => .application "Number" [.leaf (Numeral.render value)]
  | .binary left operator right =>
      .application "Binary" [left.outline, .leaf operator.name, right.outline]
  | .quotient dividend divisor rounding =>
      .application "Divide"
        [dividend.outline, divisor.outline,
          .optional (rounding.map fun direction => .leaf direction.name)]
  | .negation operand => .application "Negate" [operand.outline]
  | .dice times sides => diceOutline times.outline sides.outline none
  | .criticalDice times sides critical =>
      diceOutline times.outline sides.outline (some critical.outline)

end Formula

end DiceLanguage
