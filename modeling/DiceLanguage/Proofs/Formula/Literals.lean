import DiceLanguage.Formula.Stage
import DiceLanguage.Proofs.Word

/-!
# Literals of formulas

The literals of a formula from left to right, and how large they are. Folding
signs may turn a literal into its negation, but keeps its size and its place,
and so does all that waits for an operand while a formula is read.
-/

set_option autoImplicit false

namespace DiceLanguage

/-- The literals of a formula, those of a roll in the order of their places. -/
def Formula.literals : Formula → List Int64
  | .number value => [value]
  | .binary left _ right => left.literals ++ right.literals
  | .quotient dividend divisor _ => dividend.literals ++ divisor.literals
  | .negation operand => operand.literals
  | .dice times sides => times.literals ++ sides.literals
  | .criticalDice times sides critical =>
      times.literals ++ sides.literals ++ critical.literals

def magnitude (word : Int64) : Nat := word.toInt.natAbs

/-- The least word is its own negation, so it keeps its magnitude too. -/
@[simp] theorem magnitude_neg (word : Int64) : magnitude (-word) = magnitude word := by
  unfold magnitude
  by_cases least : word = Int64.minValue
  · subst least
    rfl
  · rw [toInt_neg_of_ne_least least, Int.natAbs_neg]

namespace Formula

def magnitudes (formula : Formula) : List Nat := formula.literals.map magnitude

@[simp] theorem magnitudes_number (value : Int64) :
    (number value).magnitudes = [magnitude value] := rfl

@[simp] theorem magnitudes_binary (left : Formula) (operator : Operator) (right : Formula) :
    (binary left operator right).magnitudes = left.magnitudes ++ right.magnitudes := by
  simp [magnitudes, literals]

@[simp] theorem magnitudes_quotient (dividend divisor : Formula) (rounding : Option Rounding) :
    (quotient dividend divisor rounding).magnitudes =
      dividend.magnitudes ++ divisor.magnitudes := by
  simp [magnitudes, literals]

@[simp] theorem magnitudes_negation (operand : Formula) :
    (negation operand).magnitudes = operand.magnitudes := rfl

@[simp] theorem magnitudes_dice (times sides : Formula) :
    (dice times sides).magnitudes = times.magnitudes ++ sides.magnitudes := by
  simp [magnitudes, literals]

@[simp] theorem magnitudes_criticalDice (times sides critical : Formula) :
    (criticalDice times sides critical).magnitudes =
      times.magnitudes ++ sides.magnitudes ++ critical.magnitudes := by
  simp [magnitudes, literals]

@[simp] theorem magnitudes_negate (formula : Formula) :
    formula.negate.magnitudes = formula.magnitudes := by
  cases formula <;> simp [negate]

@[simp] theorem magnitudes_join (left : Formula) (operator : Operator) (right : Formula) :
    (left.join operator right).magnitudes = left.magnitudes ++ right.magnitudes := by
  cases right <;> simp only [join, magnitudes_binary]
  split <;> simp

end Formula

/-! ## Operands and what waits for them -/

namespace Pending

def waiting {α : Type} : Option (Formula × α) → List Nat
  | none => []
  | some (left, _) => left.magnitudes

def magnitudes (pending : Pending Formula) : List Nat :=
  waiting pending.sum ++ waiting pending.factor

variable (pending : Pending Formula)

@[simp] theorem magnitudes_signed (sign : Sign) :
    (pending.signed sign).magnitudes = pending.magnitudes := by
  cases sign <;> rfl

@[simp] theorem magnitudes_ofSum (sum : Formula) (sign : Sign) :
    (ofSum sum sign).magnitudes = sum.magnitudes := by
  simp [ofSum, magnitudes, waiting]

@[simp] theorem magnitudes_ofTerm (sum : Option (Formula × Sign)) (term : Formula)
    (scaling : Scaling) :
    (ofTerm sum term scaling).magnitudes = waiting sum ++ term.magnitudes := rfl

@[simp] theorem magnitudes_product (term : Term) (rounding : Option Rounding) :
    (pending.product term rounding).magnitudes =
      waiting pending.factor ++ term.formula.magnitudes := by
  have operand : (pending.operand term).magnitudes = term.formula.magnitudes := by
    unfold Pending.operand
    split <;> simp
  unfold product
  split
  next single => simp [single, waiting, operand]
  next times => simp [times, waiting, operand]
  next divides => simp [divides, waiting, operand]

@[simp] theorem magnitudes_ofLastProduct (sum : Option (Formula × Sign)) (product : Formula) :
    (Formula.ofLastProduct sum product).magnitudes = waiting sum ++ product.magnitudes := by
  unfold Formula.ofLastProduct
  split <;> simp [waiting]

end Pending

namespace Reading

def Slot.magnitudes : Slot → List Nat
  | .operand pending => pending.magnitudes
  | .sides pending count => pending.magnitudes ++ [magnitude count]
  | .critical pending count size => pending.magnitudes ++ [magnitude count, magnitude size]

def Stage.magnitudes : Stage → List Nat
  | .awaiting slot => slot.magnitudes
  | .whole formed => formed.formula.magnitudes

theorem Whole.magnitudes_formula (whole : Whole) :
    whole.formula.magnitudes = Pending.waiting whole.sum ++ whole.product.magnitudes := by
  rw [formula, Pending.magnitudes_ofLastProduct]

@[simp] theorem Whole.magnitudes_plain (pending : Pending Formula) (term : Term) :
    (plain pending term).formula.magnitudes = pending.magnitudes ++ term.formula.magnitudes := by
  simp [magnitudes_formula, sum, product, Pending.magnitudes]

@[simp] theorem Whole.magnitudes_rounded (sum : Option (Formula × Sign)) (product : Formula) :
    (rounded sum product).formula.magnitudes = Pending.waiting sum ++ product.magnitudes :=
  magnitudes_formula _

/-- A number comes after all that stand to its left. -/
theorem Slot.magnitudes_fill (slot : Slot) (value : Int64) :
    (slot.fill value).formula.magnitudes = slot.magnitudes ++ [magnitude value] := by
  cases slot <;> simp [fill, Slot.magnitudes, Term.formula]

end Reading

end DiceLanguage
