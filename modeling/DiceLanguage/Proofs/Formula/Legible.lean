import DiceLanguage.Proofs.Formula.Built
import DiceLanguage.Proofs.Formula.Unambiguity

/-!
# Legible formulas

Numbers, negations and dice all stand in the places of dice without
parentheses. The shape of dice shows how they are nested only if nothing before
`D` may be taken for a sign or for dice of its own, and if no dice between `D`
and `@` may claim the critical number for themselves.
-/

set_option autoImplicit false

namespace DiceLanguage.Formula

open Text

/-- Whether a formula is written before `D` as digits or in parentheses. -/
def isPlain : Formula → Bool
  | .number value => decide (0 ≤ value)
  | .binary .. | .quotient .. => true
  | .negation _ | .dice .. | .criticalDice .. => false

/-- Whether a formula that needs no parentheses in a place of dice ends with
dice of its own. -/
def endsWithDice : Formula → Bool
  | .dice .. | .criticalDice .. => true
  | .negation operand => operand.endsWithDice
  | .number _ | .binary .. | .quotient .. => false

/-- A formula in which no literal is negated and whose shape shows how dice are
nested. -/
inductive IsLegible : Formula → Prop where
  | number (value : Int64) : IsLegible (.number value)
  | negation {operand} :
      IsLegible operand → (∀ value, operand ≠ .number value) → IsLegible (.negation operand)
  | binary {left right} (operator : Operator) :
      IsLegible left → IsLegible right → IsLegible (.binary left operator right)
  | quotient {dividend divisor} (rounding : Option Rounding) :
      IsLegible dividend → IsLegible divisor → IsLegible (.quotient dividend divisor rounding)
  | dice {times sides} :
      IsLegible times → IsLegible sides → times.isPlain = true → IsLegible (.dice times sides)
  | criticalDice {times sides critical} :
      IsLegible times → IsLegible sides → IsLegible critical → times.isPlain = true →
      sides.endsWithDice = false → IsLegible (.criticalDice times sides critical)

theorem IsReduced.isLegible {formula : Formula} (reduced : IsReduced formula) :
    IsLegible formula := by
  induction reduced with
  | number value => exact .number value
  | roll roll =>
      cases roll with
      | dice timesNonneg _ =>
          exact .dice (.number _) (.number _) (decide_eq_true timesNonneg)
      | criticalDice timesNonneg _ _ =>
          exact .criticalDice (.number _) (.number _) (.number _) (decide_eq_true timesNonneg) rfl
  | negation _ notNumber operand => exact .negation operand notNumber
  | binary operator _ _ left right => exact .binary operator left right
  | quotient rounding _ _ dividend divisor => exact .quotient rounding dividend divisor

variable {first second times sides operand : Formula}

/-! ## Shapes of literals and of dice -/

private theorem exists_shape_number (value : Int64) :
    ∃ magnitude, (number value).shape = .digits magnitude ∨
      (number value).shape = .signed (.digits magnitude) := by
  unfold shape
  split
  next magnitude _ => exact ⟨magnitude, .inl rfl⟩
  next predecessor _ => exact ⟨predecessor + 1, .inr rfl⟩

private theorem shape_number_of_nonneg {value : Int64} (nonneg : 0 ≤ value) :
    (number value).shape = .digits value.toInt.toNat := by
  rw [nonneg_iff_toInt] at nonneg
  unfold shape
  split
  next magnitude same => rw [same]; rfl
  next predecessor same => omega

private theorem number_eq_of_shape_eq {value other : Int64}
    (same : (number value).shape = (number other).shape) : value = other := by
  have texts := congrArg Shape.written same
  rw [written_shape, written_shape] at texts
  exact Numeral.written_injective texts

private theorem firstMark?_shape (bare : first.endsWithDice = false) :
    first.shape.firstMark? = none := by
  induction first with
  | number value =>
      obtain ⟨magnitude, digits | signed⟩ := exists_shape_number value
      · rw [digits]; rfl
      · rw [signed]; rfl
  | binary => rfl
  | quotient => rfl
  | negation operand ih => exact ih bare
  | dice => cases bare
  | criticalDice => cases bare

private theorem followed_shape_of_isPlain (plain : times.isPlain = true) (mark : Mark)
    (more : Shape) :
    times.shape.followed mark more = .marked times.shape mark more := by
  cases times with
  | number value =>
      rw [shape_number_of_nonneg (of_decide_eq_true plain)]
      rfl
  | binary => rfl
  | quotient => rfl
  | _ => cases plain

private theorem shape_dice (plain : times.isPlain = true) (sides : Formula) :
    (dice times sides).shape = .marked times.shape .die sides.shape :=
  followed_shape_of_isPlain plain .die sides.shape

private theorem shape_criticalDice (plain : times.isPlain = true) (sides critical : Formula) :
    (criticalDice times sides critical).shape =
      .marked times.shape .die (sides.shape.followed .critical critical.shape) := by
  rw [shape, followed_shape_of_isPlain plain]
  rfl

/-! ## What the shape of a legible formula shows -/

section Shapes

variable {left right dividend divisor place rest : Shape} {operator : Operator}
  {rounding : Option Rounding} {mark : Mark} {magnitude : Nat}

private theorem IsLegible.of_shape_eq_digits (legible : IsLegible first)
    (digits : first.shape = .digits magnitude) : ∃ value, first = .number value := by
  cases legible with
  | number value => exact ⟨value, rfl⟩
  | dice _ _ plain => rw [shape_dice plain] at digits; cases digits
  | criticalDice _ _ _ plain _ => rw [shape_criticalDice plain] at digits; cases digits
  | _ => cases digits

private theorem IsLegible.of_shape_eq_signed (legible : IsLegible first)
    (signed : first.shape = .signed rest) :
    (∃ value, first = .number value) ∨
      ∃ operand, first = .negation operand ∧ IsLegible operand ∧
        (∀ value, operand ≠ .number value) ∧ operand.shape = rest := by
  cases legible with
  | number value => exact .inl ⟨value, rfl⟩
  | negation operand notNumber =>
      exact .inr ⟨_, rfl, operand, notNumber, Shape.signed.inj signed⟩
  | dice _ _ plain => rw [shape_dice plain] at signed; cases signed
  | criticalDice _ _ _ plain _ => rw [shape_criticalDice plain] at signed; cases signed
  | _ => cases signed

private theorem IsLegible.of_shape_eq_binary (legible : IsLegible first)
    (joined : first.shape = .binary left operator right) :
    ∃ leftFormula rightFormula, first = .binary leftFormula operator rightFormula ∧
      IsLegible leftFormula ∧ IsLegible rightFormula ∧
      leftFormula.shape = left ∧ rightFormula.shape = right := by
  cases legible with
  | number value =>
      obtain ⟨magnitude, shape | shape⟩ := exists_shape_number value <;>
        (rw [shape] at joined; cases joined)
  | binary operator leftLegible rightLegible =>
      obtain ⟨lefts, rfl, rights⟩ := Shape.binary.inj joined
      exact ⟨_, _, rfl, leftLegible, rightLegible, lefts, rights⟩
  | dice _ _ plain => rw [shape_dice plain] at joined; cases joined
  | criticalDice _ _ _ plain _ => rw [shape_criticalDice plain] at joined; cases joined
  | _ => cases joined

private theorem IsLegible.of_shape_eq_quotient (legible : IsLegible first)
    (divided : first.shape = .quotient dividend divisor rounding) :
    ∃ dividendFormula divisorFormula, first = .quotient dividendFormula divisorFormula rounding ∧
      IsLegible dividendFormula ∧ IsLegible divisorFormula ∧
      dividendFormula.shape = dividend ∧ divisorFormula.shape = divisor := by
  cases legible with
  | number value =>
      obtain ⟨magnitude, shape | shape⟩ := exists_shape_number value <;>
        (rw [shape] at divided; cases divided)
  | quotient rounding dividendLegible divisorLegible =>
      obtain ⟨dividends, divisors, rfl⟩ := Shape.quotient.inj divided
      exact ⟨_, _, rfl, dividendLegible, divisorLegible, dividends, divisors⟩
  | dice _ _ plain => rw [shape_dice plain] at divided; cases divided
  | criticalDice _ _ _ plain _ => rw [shape_criticalDice plain] at divided; cases divided
  | _ => cases divided

/-- Only dice have a row that begins with a place of dice. -/
private theorem IsLegible.of_shape_eq_marked (legible : IsLegible first)
    (marked : first.shape = .marked place mark rest) :
    (∃ times sides, first = .dice times sides ∧ IsLegible times ∧ IsLegible sides ∧
      times.shape = place ∧ sides.shape = rest) ∨
    ∃ times sides critical, first = .criticalDice times sides critical ∧ IsLegible times ∧
      IsLegible sides ∧ IsLegible critical ∧ sides.shape.firstMark? = none ∧
      times.shape = place ∧ sides.shape.followed .critical critical.shape = rest := by
  cases legible with
  | number value =>
      obtain ⟨magnitude, shape | shape⟩ := exists_shape_number value <;>
        (rw [shape] at marked; cases marked)
  | dice times sides plain =>
      rw [shape_dice plain] at marked
      obtain ⟨places, _, rests⟩ := Shape.marked.inj marked
      exact .inl ⟨_, _, rfl, times, sides, places, rests⟩
  | criticalDice times sides critical plain bare =>
      rw [shape_criticalDice plain] at marked
      obtain ⟨places, _, rests⟩ := Shape.marked.inj marked
      exact .inr ⟨_, _, _, rfl, times, sides, critical, firstMark?_shape bare, places, rests⟩
  | _ => cases marked

end Shapes

private theorem IsLegible.shape_negation_ne_number (legible : IsLegible operand)
    (notNumber : ∀ value, operand ≠ .number value) (value : Int64) :
    (Formula.negation operand).shape ≠ (Formula.number value).shape := by
  intro same
  obtain ⟨magnitude, digits | signed⟩ := exists_shape_number value
  · rw [digits] at same
    cases same
  · rw [signed] at same
    obtain ⟨other, rfl⟩ := legible.of_shape_eq_digits (Shape.signed.inj same)
    exact notNumber other rfl

private theorem shape_ne_followed_critical {other critical : Formula}
    (bare : other.shape.firstMark? = none) :
    sides.shape ≠ other.shape.followed .critical critical.shape := by
  intro same
  apply sides.firstMark?_shape_ne_critical
  rw [same, Shape.firstMark?_followed, bare]
  rfl

/-- A legible formula is known by its shape. -/
theorem IsLegible.eq_of_shape_eq (legible : IsLegible first) (otherLegible : IsLegible second)
    (same : first.shape = second.shape) : first = second := by
  induction legible generalizing second with
  | number value =>
      obtain ⟨magnitude, digits | signed⟩ := exists_shape_number value
      · obtain ⟨other, rfl⟩ := otherLegible.of_shape_eq_digits (same.symm.trans digits)
        rw [number_eq_of_shape_eq same]
      · rcases otherLegible.of_shape_eq_signed (same.symm.trans signed) with
          ⟨other, rfl⟩ | ⟨operand, rfl, operandLegible, notNumber, _⟩
        · rw [number_eq_of_shape_eq same]
        · exact absurd same.symm (operandLegible.shape_negation_ne_number notNumber value)
  | negation operandLegible notNumber ih =>
      rcases otherLegible.of_shape_eq_signed same.symm with
        ⟨other, rfl⟩ | ⟨operand, rfl, otherOperandLegible, _, operands⟩
      · exact absurd same (operandLegible.shape_negation_ne_number notNumber other)
      · rw [ih otherOperandLegible operands.symm]
  | binary operator _ _ leftIH rightIH =>
      obtain ⟨left, right, rfl, leftLegible, rightLegible, lefts, rights⟩ :=
        otherLegible.of_shape_eq_binary same.symm
      rw [leftIH leftLegible lefts.symm, rightIH rightLegible rights.symm]
  | quotient rounding _ _ dividendIH divisorIH =>
      obtain ⟨dividend, divisor, rfl, dividendLegible, divisorLegible, dividends, divisors⟩ :=
        otherLegible.of_shape_eq_quotient same.symm
      rw [dividendIH dividendLegible dividends.symm, divisorIH divisorLegible divisors.symm]
  | dice _ _ plain timesIH sidesIH =>
      rw [shape_dice plain] at same
      rcases otherLegible.of_shape_eq_marked same.symm with
        ⟨times, sides, rfl, timesLegible, sidesLegible, timesSame, sidesSame⟩ |
        ⟨times, sides, critical, rfl, _, _, _, bare, _, row⟩
      · rw [timesIH timesLegible timesSame.symm, sidesIH sidesLegible sidesSame.symm]
      · exact absurd row.symm (shape_ne_followed_critical bare)
  | criticalDice _ _ _ plain bare timesIH sidesIH criticalIH =>
      rw [shape_criticalDice plain] at same
      rcases otherLegible.of_shape_eq_marked same.symm with
        ⟨times, sides, rfl, _, _, _, row⟩ |
        ⟨times, sides, critical, rfl, timesLegible, sidesLegible, criticalLegible, otherBare,
          timesSame, row⟩
      · exact absurd row (shape_ne_followed_critical (firstMark?_shape bare))
      · obtain ⟨sidesSame, _, criticalSame⟩ :=
          Shape.followed_inj otherBare (firstMark?_shape bare) row
        rw [timesIH timesLegible timesSame.symm, sidesIH sidesLegible sidesSame.symm,
          criticalIH criticalLegible criticalSame.symm]

/-- A reduced formula is known by its text. -/
theorem IsReduced.eq_of_written_eq (reduced : IsReduced first) (otherReduced : IsReduced second)
    (same : first.written = second.written) : first = second := by
  rw [← written_shape first, ← written_shape second] at same
  exact reduced.isLegible.eq_of_shape_eq otherReduced.isLegible (Shape.written_injective same)

end DiceLanguage.Formula
