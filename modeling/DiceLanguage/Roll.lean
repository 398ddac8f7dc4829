import DiceLanguage.Check
import DiceLanguage.Formula.Outline
import DiceLanguage.Formula.Render

/-!
# Rolls

A roll is what a player asks for: a formula, and a check of its result if there
is one.
-/

set_option autoImplicit false

namespace DiceLanguage

open Text

structure Roll where
  formula : Formula
  check : Option Check
  deriving DecidableEq

namespace Roll

def render (roll : Roll) : String :=
  match roll.check with
  | none => roll.formula.render
  | some check => roll.formula.render ++ check.render

end Roll

def Relation.name : Relation → String
  | .less => "Lt"
  | .greater => "Gt"
  | .lessOrEqual => "Le"
  | .greaterOrEqual => "Ge"
  | .equal => "Eq"
  | .unequal => "Ne"

def Target.outline : Target → Outline
  | .value word => .application "Value" [.leaf (Numeral.render word)]
  | .query => .leaf "Query"

def Check.outline (check : Check) : Outline :=
  .record "Comparison"
    [("operator", .leaf check.relation.name), ("target", check.target.outline)]

def Roll.outline (roll : Roll) : Outline :=
  .record "Command"
    [("body", roll.formula.outline), ("comparison", .optional (roll.check.map Check.outline))]

end DiceLanguage
