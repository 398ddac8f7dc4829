import DiceLanguage.Proofs.Formula.Subformulas

/-!
# Formulas with nothing left to fold

The constructors that fold signs leave no sign to fold, whatever formulas of
this kind they are given. The least word is the one literal that stays negative
to the right of `+` or `-`.
-/

set_option autoImplicit false

namespace DiceLanguage.Formula

/-- No sign is left to fold, here or in any part. -/
inductive IsSettled : Formula → Prop where
  | number (value : Int64) : IsSettled (.number value)
  | binary {left operator right} :
      IsSettled left → IsSettled right →
      (∀ value, right = .number value → operator.isAdditive = true → value < 0 →
        value = Int64.minValue) →
      IsSettled (.binary left operator right)
  | quotient {dividend divisor rounding} :
      IsSettled dividend → IsSettled divisor → IsSettled (.quotient dividend divisor rounding)
  | negation {operand} :
      IsSettled operand → (∀ value, operand ≠ .number value) →
      (∀ inner, operand ≠ .negation inner) → IsSettled (.negation operand)
  | dice {times sides} : IsSettled times → IsSettled sides → IsSettled (.dice times sides)
  | criticalDice {times sides critical} :
      IsSettled times → IsSettled sides → IsSettled critical →
      IsSettled (.criticalDice times sides critical)

namespace IsSettled

variable {formula left right : Formula}

theorem negate (settled : IsSettled formula) : IsSettled formula.negate := by
  cases settled with
  | number value => exact .number (-value)
  | negation operand _ _ => exact operand
  | binary left right joined => exact .negation (.binary left right joined) (by simp) (by simp)
  | quotient dividend divisor => exact .negation (.quotient dividend divisor) (by simp) (by simp)
  | dice times sides => exact .negation (.dice times sides) (by simp) (by simp)
  | criticalDice times sides critical =>
      exact .negation (.criticalDice times sides critical) (by simp) (by simp)

theorem join (operator : Operator) (leftSettled : IsSettled left)
    (rightSettled : IsSettled right) : IsSettled (left.join operator right) := by
  unfold Formula.join
  split
  next value =>
    split
    next turns =>
      refine .binary leftSettled (.number (-value)) ?_
      rintro _ ⟨⟩ _ stillNegative
      simp only [Bool.and_eq_true, decide_eq_true_eq] at turns
      by_cases least : value = Int64.minValue
      · subst least
        rfl
      · exact absurd stillNegative (Int64.not_lt.mpr (nonneg_neg_of_neg least turns.2))
    next stays =>
      refine .binary leftSettled (.number value) ?_
      rintro _ ⟨⟩ additive negative
      simp [additive, negative] at stays
  next other =>
    refine .binary leftSettled rightSettled ?_
    rintro value rfl
    exact absurd rfl (other value)

/-- Turning a formula twice gives it back. -/
theorem negate_negate (settled : IsSettled formula) : formula.negate.negate = formula := by
  cases settled with
  | number value => simp
  | @negation operand _ notNumber notNegation =>
      cases operand with
      | number value => exact absurd rfl (notNumber value)
      | negation inner => exact absurd rfl (notNegation inner)
      | _ => rfl
  | _ => rfl

theorem of_mem {part : Formula} (settled : IsSettled formula)
    (member : part ∈ formula.subformulas) : IsSettled part := by
  induction settled with
  | number value =>
      rw [subformulas, List.mem_singleton] at member
      subst member
      exact .number value
  | binary left right joined inLeft inRight =>
      rw [subformulas, List.mem_cons, List.mem_append] at member
      rcases member with rfl | member | member
      · exact .binary left right joined
      · exact inLeft member
      · exact inRight member
  | quotient dividend divisor inDividend inDivisor =>
      rw [subformulas, List.mem_cons, List.mem_append] at member
      rcases member with rfl | member | member
      · exact .quotient dividend divisor
      · exact inDividend member
      · exact inDivisor member
  | negation operand notNumber notNegation inOperand =>
      rw [subformulas, List.mem_cons] at member
      rcases member with rfl | member
      · exact .negation operand notNumber notNegation
      · exact inOperand member
  | dice times sides inTimes inSides =>
      rw [subformulas, List.mem_cons, List.mem_append] at member
      rcases member with rfl | member | member
      · exact .dice times sides
      · exact inTimes member
      · exact inSides member
  | criticalDice times sides critical inTimes inSides inCritical =>
      simp only [subformulas, List.mem_cons, List.mem_append] at member
      rcases member with rfl | member | member | member
      · exact .criticalDice times sides critical
      · exact inTimes member
      · exact inSides member
      · exact inCritical member

end IsSettled

theorem isSettled_folded (formula : Formula) : formula.folded.IsSettled := by
  induction formula with
  | number value => exact .number value
  | binary left operator right leftSettled rightSettled => exact leftSettled.join operator rightSettled
  | quotient dividend divisor rounding dividendSettled divisorSettled =>
      exact .quotient dividendSettled divisorSettled
  | negation operand settled => exact settled.negate
  | dice times sides timesSettled sidesSettled => exact .dice timesSettled sidesSettled
  | criticalDice times sides critical timesSettled sidesSettled criticalSettled =>
      exact .criticalDice timesSettled sidesSettled criticalSettled

end DiceLanguage.Formula
