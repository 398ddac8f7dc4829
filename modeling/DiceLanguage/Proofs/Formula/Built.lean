import DiceLanguage.Proofs.Formula.Canonical

/-!
# Built formulas

The formulas that the folding constructors can build when dice have only
non-negative literals in their places. No negation is built before a literal;
otherwise built formulas are nested in any way.
-/

set_option autoImplicit false

namespace DiceLanguage.Formula

inductive IsBuilt : Formula → Prop where
  | number (value : Int64) : IsBuilt (.number value)
  | roll {formula} : IsRoll formula → IsBuilt formula
  | negate {operand} : IsBuilt operand → IsBuilt operand.negate
  | join {left right} (operator : Operator) :
      IsBuilt left → IsBuilt right → IsBuilt (left.join operator right)
  | quotient {dividend divisor} (rounding : Option Rounding) :
      IsBuilt dividend → IsBuilt divisor → IsBuilt (.quotient dividend divisor rounding)

/-- A formula in which no literal is negated. Its literals may be negative
wherever no dice are rolled. -/
inductive IsReduced : Formula → Prop where
  | number (value : Int64) : IsReduced (.number value)
  | roll {formula} : IsRoll formula → IsReduced formula
  | negation {operand} :
      IsReduced operand → (∀ value, operand ≠ .number value) → IsReduced (.negation operand)
  | binary {left right} (operator : Operator) :
      IsReduced left → IsReduced right → IsReduced (.binary left operator right)
  | quotient {dividend divisor} (rounding : Option Rounding) :
      IsReduced dividend → IsReduced divisor → IsReduced (.quotient dividend divisor rounding)

theorem IsReduced.negate {operand : Formula} (reduced : IsReduced operand) :
    IsReduced operand.negate := by
  cases reduced with
  | number value => exact .number (-value)
  | roll roll =>
      cases roll with
      | dice times sides => exact .negation (.roll (.dice times sides)) (by simp)
      | criticalDice times sides critical =>
          exact .negation (.roll (.criticalDice times sides critical)) (by simp)
  | negation operand _ => exact operand
  | binary operator left right => exact .negation (.binary operator left right) (by simp)
  | quotient rounding dividend divisor =>
      exact .negation (.quotient rounding dividend divisor) (by simp)

theorem IsReduced.join {left right : Formula} (operator : Operator) (leftReduced : IsReduced left)
    (rightReduced : IsReduced right) : IsReduced (left.join operator right) := by
  unfold Formula.join
  split
  next =>
    split
    next => exact .binary _ leftReduced (.number _)
    next => exact .binary _ leftReduced (.number _)
  next => exact .binary _ leftReduced rightReduced

theorem IsBuilt.isReduced {formula : Formula} (built : IsBuilt formula) : IsReduced formula := by
  induction built with
  | number value => exact .number value
  | roll roll => exact .roll roll
  | negate _ operand => exact operand.negate
  | join operator _ _ left right => exact left.join operator right
  | quotient rounding _ _ dividend divisor => exact .quotient rounding dividend divisor

end DiceLanguage.Formula
