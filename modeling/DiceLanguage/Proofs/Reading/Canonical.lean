import DiceLanguage.Proofs.Formula.Canonical
import DiceLanguage.Proofs.Reading.Moves

/-!
# Readings give canonical formulas

Whatever tokens are read, well-formed or not, each stage holds canonical parts
only, and so does the formula in the end.
-/

set_option autoImplicit false

namespace DiceLanguage

open Formula

def SumIsCanonical (sum : Option (Formula × Sign)) : Prop :=
  ∀ left sign, sum = some (left, sign) → IsCanonical left

structure Pending.IsCanonical (pending : Pending Formula) : Prop where
  sum : SumIsCanonical pending.sum
  factor : ∀ left scaling, pending.factor = some (left, scaling) → IsProduct left

namespace Pending.IsCanonical

variable {pending : Pending Formula}

private theorem nothing : (Pending.nothing : Pending Formula).IsCanonical :=
  ⟨fun _ _ none => (by cases none), fun _ _ none => (by cases none)⟩

private theorem signed (canonical : pending.IsCanonical) (sign : Sign) :
    (pending.signed sign).IsCanonical := by
  cases sign with
  | plus => exact canonical
  | minus => exact ⟨canonical.sum, canonical.factor⟩

private theorem ofSum {sum : Formula} (canonical : sum.IsCanonical) (sign : Sign) :
    (Pending.ofSum sum sign).IsCanonical := by
  refine ⟨fun left other same => ?_, fun _ _ none => (by cases none)⟩
  cases same
  exact canonical

private theorem ofTerm {sum : Option (Formula × Sign)} {left : Formula}
    (canonical : SumIsCanonical sum) (product : IsProduct left) (scaling : Scaling) :
    (Pending.ofTerm sum left scaling).IsCanonical := by
  refine ⟨canonical, fun other _ same => ?_⟩
  cases same
  exact product

private theorem operand {term : Term} (nonneg : term.IsNonnegative) :
    (pending.operand term).IsFactor := by
  unfold Pending.operand
  split
  · exact nonneg.isFactor_negate
  · exact nonneg.isFactor

private theorem product {term : Term} (canonical : pending.IsCanonical)
    (nonneg : term.IsNonnegative)
    (rounding : Option Rounding) : (pending.product term rounding).IsProduct := by
  unfold Pending.product
  split
  next => exact .factor (operand nonneg)
  next left factor =>
    rw [join_multiply]
    exact .times (canonical.factor _ _ factor) (operand nonneg)
  next dividend factor => exact .divided (canonical.factor _ _ factor) (operand nonneg)

end Pending.IsCanonical

namespace Reading

def Slot.IsCanonical : Slot → Prop
  | .operand pending => pending.IsCanonical
  | .sides pending count => pending.IsCanonical ∧ 0 ≤ count
  | .critical pending count size => pending.IsCanonical ∧ 0 ≤ count ∧ 0 ≤ size

def Whole.IsCanonical : Whole → Prop
  | .plain pending term => pending.IsCanonical ∧ term.IsNonnegative
  | .rounded sum product => SumIsCanonical sum ∧ product.IsProduct

def Stage.IsCanonical : Stage → Prop
  | .awaiting slot => slot.IsCanonical
  | .whole formed => formed.IsCanonical

private theorem Slot.IsCanonical.fill {slot : Slot} (canonical : slot.IsCanonical) {value : Int64}
    (nonneg : 0 ≤ value) : (slot.fill value).IsCanonical := by
  cases slot with
  | operand pending => exact ⟨canonical, nonneg⟩
  | sides pending count => exact ⟨canonical.1, canonical.2, nonneg⟩
  | critical pending count size => exact ⟨canonical.1, canonical.2.1, canonical.2.2, nonneg⟩

namespace Whole.IsCanonical

variable {whole : Whole}

private theorem sum (canonical : whole.IsCanonical) : SumIsCanonical whole.sum := by
  cases whole with
  | plain pending term => exact canonical.1.sum
  | rounded sum product => exact canonical.1

theorem product (canonical : whole.IsCanonical) : whole.product.IsProduct := by
  cases whole with
  | plain pending term => exact canonical.1.product canonical.2 none
  | rounded sum product => exact canonical.2

private theorem formula (canonical : whole.IsCanonical) : whole.formula.IsCanonical := by
  unfold Whole.formula ofLastProduct
  split
  next => exact .product canonical.product
  next left sign joined =>
    exact join_isCanonical (canonical.sum left sign joined) sign canonical.product

end Whole.IsCanonical

theorem Stage.IsCanonical.moves {token : Token} {stage next : Stage}
    (canonical : stage.IsCanonical) (moves : Moves token stage next) : next.IsCanonical := by
  cases moves with
  | signed => exact Pending.IsCanonical.signed canonical _
  | filled denoted => exact Slot.IsCanonical.fill canonical denoted.nonneg
  | joined => exact Pending.IsCanonical.ofSum (Whole.IsCanonical.formula canonical) _
  | scaled =>
      have sum := Whole.IsCanonical.sum canonical
      exact Pending.IsCanonical.ofTerm sum (Whole.IsCanonical.product canonical) _
  | sides => exact canonical
  | critical => exact canonical
  | rounded => exact ⟨canonical.1.sum, canonical.1.product canonical.2 _⟩

namespace Progress

variable {progress next : Progress}

theorem stage_initial_isCanonical (position : Nat) : (initial position).stage.IsCanonical :=
  Pending.IsCanonical.nothing

/-- No token, fitting or not, spoils a stage. -/
theorem stage_isCanonical_of_take? {token : Token} (canonical : progress.stage.IsCanonical)
    (taken : progress.take? token = some next) : next.stage.IsCanonical := by
  rcases take?_cases taken with ⟨stage, accepted, rfl⟩ | ⟨slot, awaits, rfl⟩
  · exact canonical.moves (Stage.moves_of_accept? accepted)
  · rw [awaits] at canonical
    exact Slot.IsCanonical.fill canonical (by decide)

private theorem formula_finish_isCanonical (canonical : progress.stage.IsCanonical)
    (leftover : List Token) : (progress.finish leftover).formula.IsCanonical := by
  rw [finish_eq]
  split
  next whole stands =>
    rw [stands] at canonical
    exact Whole.IsCanonical.formula canonical
  next slot awaits =>
    rw [awaits] at canonical
    exact Whole.IsCanonical.formula (Slot.IsCanonical.fill canonical (by decide))

private theorem formula_read_isCanonical (canonical : progress.stage.IsCanonical)
    (tokens : List Token) :
    (progress.read tokens).formula.IsCanonical := by
  induction tokens generalizing progress with
  | nil => exact formula_finish_isCanonical canonical []
  | cons token rest ih =>
      rw [read_cons]
      split
      next next taken => exact ih (stage_isCanonical_of_take? canonical taken)
      next => exact formula_finish_isCanonical canonical _

end Progress

theorem formula_ofTokens_isCanonical (tokens : List Token) :
    (ofTokens tokens).formula.IsCanonical := by
  rw [ofTokens_eq]
  split
  · exact Progress.formula_read_isCanonical (Progress.stage_initial_isCanonical 1) _
  · exact Progress.formula_read_isCanonical (Progress.stage_initial_isCanonical 0) _

end Reading

end DiceLanguage
