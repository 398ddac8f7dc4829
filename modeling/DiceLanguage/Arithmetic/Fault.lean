import DiceLanguage.Text.Numeral
import DiceLanguage.Text.Quoted

/-!
# Faults of an evaluation

Why a text has no value. Positions are byte offsets into the evaluated text.
-/

set_option autoImplicit false

namespace DiceLanguage

open Text

inductive Fault where
  | unexpected (position : Nat) (found : String)
  | unfinished
  | divisionByZero
  | overflow
  | tooDeep (limit : Nat)
  /-- A reason of an evaluator's own, in its own words. -/
  | other (reason : String)
  deriving DecidableEq

namespace Fault

def message : Fault → String
  | .unexpected position found =>
      "unexpected " ++ Quoted.ofString found ++ " at position " ++ Numeral.count position
  | .unfinished => "unexpected end of expression"
  | .divisionByZero => "cannot divide by zero"
  | .overflow => "integer overflow"
  | .tooDeep limit => "parentheses nested deeper than " ++ Numeral.count limit
  | .other reason => reason

end Fault

end DiceLanguage
