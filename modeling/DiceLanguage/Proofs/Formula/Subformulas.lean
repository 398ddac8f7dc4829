import DiceLanguage.Proofs.Formula.Canonical

/-!
# Subformulas

The formulas that a formula is built from, itself included. Whatever stands in
a canonical formula is canonical too.
-/

set_option autoImplicit false

namespace DiceLanguage.Formula

def subformulas : Formula → List Formula
  | .number value => [.number value]
  | .binary left operator right =>
      .binary left operator right :: (left.subformulas ++ right.subformulas)
  | .quotient dividend divisor rounding =>
      .quotient dividend divisor rounding :: (dividend.subformulas ++ divisor.subformulas)
  | .negation operand => .negation operand :: operand.subformulas
  | .dice times sides => .dice times sides :: (times.subformulas ++ sides.subformulas)
  | .criticalDice times sides critical =>
      .criticalDice times sides critical ::
        (times.subformulas ++ (sides.subformulas ++ critical.subformulas))

variable {formula subformula : Formula}

theorem IsFactor.of_nonneg {value : Int64} (nonneg : 0 ≤ value) : IsFactor (.number value) :=
  .number (ne_least_of_nonneg nonneg)

private theorem IsRoll.isFactor_of_mem (roll : IsRoll formula)
    (member : subformula ∈ formula.subformulas) : subformula.IsFactor := by
  cases roll with
  | dice times sides =>
      simp only [subformulas, List.mem_cons, List.mem_append, List.not_mem_nil, or_false] at member
      rcases member with rfl | rfl | rfl
      · exact .roll (.dice times sides)
      · exact .of_nonneg times
      · exact .of_nonneg sides
  | criticalDice times sides critical =>
      simp only [subformulas, List.mem_cons, List.mem_append, List.not_mem_nil, or_false] at member
      rcases member with rfl | rfl | rfl | rfl
      · exact .roll (.criticalDice times sides critical)
      · exact .of_nonneg times
      · exact .of_nonneg sides
      · exact .of_nonneg critical

private theorem IsFactor.isFactor_of_mem (factor : IsFactor formula)
    (member : subformula ∈ formula.subformulas) : subformula.IsFactor := by
  cases factor with
  | number notLeast =>
      rw [subformulas, List.mem_singleton] at member
      subst member
      exact .number notLeast
  | roll roll => exact roll.isFactor_of_mem member
  | negation roll =>
      rw [subformulas, List.mem_cons] at member
      rcases member with rfl | member
      · exact .negation roll
      · exact roll.isFactor_of_mem member

private theorem IsProduct.isProduct_of_mem (product : IsProduct formula)
    (member : subformula ∈ formula.subformulas) : subformula.IsProduct := by
  induction product with
  | factor factor => exact .factor (factor.isFactor_of_mem member)
  | times left right ih =>
      rw [subformulas, List.mem_cons, List.mem_append] at member
      rcases member with rfl | member | member
      · exact .times left right
      · exact ih member
      · exact .factor (right.isFactor_of_mem member)
  | divided left right ih =>
      rw [subformulas, List.mem_cons, List.mem_append] at member
      rcases member with rfl | member | member
      · exact .divided left right
      · exact ih member
      · exact .factor (right.isFactor_of_mem member)

theorem IsCanonical.isCanonical_of_mem (canonical : IsCanonical formula)
    (member : subformula ∈ formula.subformulas) : subformula.IsCanonical := by
  induction canonical with
  | product product => exact .product (product.isProduct_of_mem member)
  | joined left right nonneg ih =>
      rw [subformulas, List.mem_cons, List.mem_append] at member
      rcases member with rfl | member | member
      · exact .joined left right nonneg
      · exact ih member
      · exact .product (right.isProduct_of_mem member)

theorem IsCanonical.isRoll_of_negation {operand : Formula}
    (canonical : IsCanonical (.negation operand)) : operand.IsRoll := by
  cases canonical with
  | product product =>
      cases product with
      | factor factor =>
          cases factor with
          | roll roll => cases roll
          | negation roll => exact roll

theorem IsCanonical.nonneg_of_joined {left : Formula} {operator : Operator} {value : Int64}
    (additive : operator.isAdditive = true)
    (canonical : IsCanonical (.binary left operator (.number value))) : 0 ≤ value := by
  cases canonical with
  | joined _ _ nonneg => exact nonneg value rfl
  | product product =>
      cases product with
      | times => cases additive
      | factor factor =>
          cases factor with
          | roll roll => cases roll

end DiceLanguage.Formula
