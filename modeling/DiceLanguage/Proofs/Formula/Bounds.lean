import DiceLanguage.Proofs.Arithmetic.Checked
import DiceLanguage.Proofs.Formula.Subformulas
import DiceLanguage.Proofs.Formula.Value

/-!
# Formulas within bounds

A formula can be computed on words when each of its sums, differences, products
and quotients has an integer that is a word, and no divisor is zero. Folding
signs neither helps nor harms: a sum with a negative literal has the integer of
the difference that it turns into.
-/

set_option autoImplicit false

namespace DiceLanguage

open Arithmetic

/-- Quotients are rounded down, whatever rounding was asked for. -/
def Valuation.floored (roll : Int → Int → Option Int → Int) : Valuation :=
  ⟨roll, fun dividend divisor _ => dividend.fdiv divisor⟩

namespace Formula

variable (valuation : Valuation)

/-- What the operator at the root of a formula asks of the integers there. -/
def Fits (formula : Formula) : Prop :=
  match formula with
  | .binary .. => IsWord (formula.value valuation)
  | .quotient _ divisor _ => divisor.value valuation ≠ 0 ∧ IsWord (formula.value valuation)
  | .number _ | .negation _ | .dice .. | .criticalDice .. => True

def IsBounded (formula : Formula) : Prop :=
  ∀ subformula ∈ formula.subformulas, subformula.Fits valuation

theorem isBounded_number (value : Int64) : (number value).IsBounded valuation := by
  intro subformula member
  rw [subformulas, List.mem_singleton] at member
  subst member
  trivial

theorem isBounded_binary (left : Formula) (operator : Operator) (right : Formula) :
    (binary left operator right).IsBounded valuation ↔
      left.IsBounded valuation ∧ right.IsBounded valuation ∧
        IsWord ((binary left operator right).value valuation) := by
  simp only [IsBounded, subformulas, List.forall_mem_cons, List.forall_mem_append]
  constructor
  · rintro ⟨root, first, second⟩
    exact ⟨first, second, root⟩
  · rintro ⟨first, second, root⟩
    exact ⟨root, first, second⟩

theorem isBounded_quotient (dividend divisor : Formula) (rounding : Option Rounding) :
    (quotient dividend divisor rounding).IsBounded valuation ↔
      dividend.IsBounded valuation ∧ divisor.IsBounded valuation ∧
        divisor.value valuation ≠ 0 ∧
        IsWord ((quotient dividend divisor rounding).value valuation) := by
  simp only [IsBounded, subformulas, List.forall_mem_cons, List.forall_mem_append]
  constructor
  · rintro ⟨root, first, second⟩
    exact ⟨first, second, root⟩
  · rintro ⟨first, second, root⟩
    exact ⟨root, first, second⟩

theorem isBounded_join (left : Formula) (operator : Operator) {right : Formula}
    (turnable : right.IsTurnable) :
    (left.join operator right).IsBounded valuation ↔
      left.IsBounded valuation ∧ right.IsBounded valuation ∧
        IsWord (operator.applied (left.value valuation) (right.value valuation)) := by
  have same : (left.join operator right).value valuation =
      operator.applied (left.value valuation) (right.value valuation) :=
    value_join valuation turnable operator
  cases right with
  | number literal =>
      simp only [join] at same ⊢
      split
      next turned =>
        rw [if_pos turned] at same
        rw [isBounded_binary, same]
        simp only [isBounded_number]
      next => exact isBounded_binary valuation left operator _
  | _ => exact isBounded_binary valuation left operator _

end Formula

end DiceLanguage
