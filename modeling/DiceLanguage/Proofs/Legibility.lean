import DiceLanguage.Proofs.Formula.Legible
import DiceLanguage.Proofs.Formula.Settled

/-!
# Dice that can be told apart

The folding constructors put any formulas in the places of dice, and in those
places only what is joined by operators is written in parentheses. Different
formulas are written differently where dice ask for no other parentheses;
elsewhere the same text may stand for dice that are nested the other way, or
for the negation of dice.
-/

set_option autoImplicit false

namespace DiceLanguage.Formula

open Text

/-- The formulas that the folding constructors build, with any of them in the
places of dice. -/
inductive IsAssembled : Formula → Prop where
  | number (value : Int64) : IsAssembled (.number value)
  | negate {operand} : IsAssembled operand → IsAssembled operand.negate
  | join {left right} (operator : Operator) :
      IsAssembled left → IsAssembled right → IsAssembled (left.join operator right)
  | quotient {dividend divisor} (rounding : Option Rounding) :
      IsAssembled dividend → IsAssembled divisor →
      IsAssembled (.quotient dividend divisor rounding)
  | dice {times sides} :
      IsAssembled times → IsAssembled sides → IsAssembled (.dice times sides)
  | criticalDice {times sides critical} :
      IsAssembled times → IsAssembled sides → IsAssembled critical →
      IsAssembled (.criticalDice times sides critical)

theorem IsAssembled.isSettled {formula : Formula} (assembled : IsAssembled formula) :
    IsSettled formula := by
  induction assembled with
  | number value => exact .number value
  | negate _ operand => exact operand.negate
  | join operator _ _ left right => exact left.join operator right
  | quotient rounding _ _ dividend divisor => exact .quotient dividend divisor
  | dice _ _ times sides => exact .dice times sides
  | criticalDice _ _ _ times sides critical => exact .criticalDice times sides critical

/-- Whether the places of dice, if this is dice, are told apart by what is
written in them. -/
def hasClearPlaces : Formula → Bool
  | .dice times _ => times.isPlain
  | .criticalDice times sides _ => times.isPlain && !sides.endsWithDice
  | .number _ | .binary .. | .quotient .. | .negation _ => true

private theorem IsSettled.isLegible {formula : Formula} (settled : IsSettled formula)
    (clear : ∀ part ∈ formula.subformulas, part.hasClearPlaces = true) : IsLegible formula := by
  induction settled with
  | number value => exact .number value
  | binary _ _ _ left right =>
      simp only [subformulas, List.forall_mem_cons, List.forall_mem_append] at clear
      exact .binary _ (left clear.2.1) (right clear.2.2)
  | quotient _ _ dividend divisor =>
      simp only [subformulas, List.forall_mem_cons, List.forall_mem_append] at clear
      exact .quotient _ (dividend clear.2.1) (divisor clear.2.2)
  | negation _ notNumber _ operand =>
      simp only [subformulas, List.forall_mem_cons] at clear
      exact .negation (operand clear.2) notNumber
  | dice _ _ times sides =>
      simp only [subformulas, List.forall_mem_cons, List.forall_mem_append] at clear
      obtain ⟨plain, clearTimes, clearSides⟩ := clear
      exact .dice (times clearTimes) (sides clearSides) plain
  | criticalDice _ _ _ times sides critical =>
      simp only [subformulas, List.forall_mem_cons, List.forall_mem_append, hasClearPlaces,
        Bool.and_eq_true, Bool.not_eq_true'] at clear
      obtain ⟨⟨plain, bare⟩, clearTimes, clearSides, clearCritical⟩ := clear
      exact .criticalDice (times clearTimes) (sides clearSides) (critical clearCritical) plain bare

/-- Different formulas that the folding constructors build are written
differently exactly when they have different shapes, and they have when all
dice in them have clear places. -/
theorem render_ne_iff_shape_ne {first second : Formula} (firstAssembled : first.IsAssembled)
    (secondAssembled : second.IsAssembled) (differ : first ≠ second) :
    (first.render ≠ second.render ↔ first.shape ≠ second.shape) ∧
      ((∀ part ∈ first.subformulas, part.hasClearPlaces = true) →
        (∀ part ∈ second.subformulas, part.hasClearPlaces = true) →
        first.shape ≠ second.shape) := by
  refine ⟨not_congr render_eq_iff, fun firstClear secondClear same => ?_⟩
  have firstLegible := firstAssembled.isSettled.isLegible firstClear
  have secondLegible := secondAssembled.isSettled.isLegible secondClear
  exact differ (firstLegible.eq_of_shape_eq secondLegible same)

/-- These are written `1D(2+3)@-2D6` and `1D-(2+3)D6`. -/
theorem render_ne_iff_shape_ne_nested :
    (criticalDice (.number 1) (.binary (.number 2) .add (.number 3))
        (.negation (.dice (.number 2) (.number 6)))).IsAssembled ∧
      (dice (.number 1) (.negation (.dice (.binary (.number 2) .add (.number 3))
        (.number 6)))).IsAssembled ∧
      (criticalDice (.number 1) (.binary (.number 2) .add (.number 3))
          (.negation (.dice (.number 2) (.number 6)))).render ≠
        (dice (.number 1) (.negation (.dice (.binary (.number 2) .add (.number 3))
          (.number 6)))).render := by
  have sum : IsAssembled (.binary (.number 2) .add (.number 3)) :=
    .join .add (.number 2) (.number 3)
  have first : (criticalDice (.number 1) (.binary (.number 2) .add (.number 3))
      (.negation (.dice (.number 2) (.number 6)))).IsAssembled :=
    .criticalDice (.number 1) sum (.negate (.dice (.number 2) (.number 6)))
  have second : (dice (.number 1) (.negation (.dice (.binary (.number 2) .add (.number 3))
      (.number 6)))).IsAssembled :=
    .dice (.number 1) (.negate (.dice sum (.number 6)))
  obtain ⟨shapes, clear⟩ := render_ne_iff_shape_ne first second (by simp)
  exact ⟨first, second, shapes.mpr (clear (by decide) (by decide))⟩

/-! ## Dice that cannot be told apart -/

structure WrittenAlike (first second : Formula) : Prop where
  firstAssembled : first.IsAssembled
  secondAssembled : second.IsAssembled
  differ : first ≠ second
  same : first.render = second.render

section WrittenAlike

variable {times sides more critical : Formula}

private theorem writtenAlike_dice_dice (timesAssembled : times.IsAssembled)
    (sidesAssembled : sides.IsAssembled) (moreAssembled : more.IsAssembled) :
    WrittenAlike (.dice (.dice times sides) more) (.dice times (.dice sides more)) where
  firstAssembled := .dice (.dice timesAssembled sidesAssembled) moreAssembled
  secondAssembled := .dice timesAssembled (.dice sidesAssembled moreAssembled)
  differ := by
    intro same
    have smaller := congrArg sizeOf (dice.inj same).1
    simp only [dice.sizeOf_spec] at smaller
    omega
  same := render_eq_iff.mpr (Shape.followed_followed times.shape .die .die sides.shape more.shape)

theorem writtenAlike_criticalDice_dice (timesAssembled : times.IsAssembled)
    (sidesAssembled : sides.IsAssembled) (moreAssembled : more.IsAssembled)
    (criticalAssembled : critical.IsAssembled) :
    WrittenAlike (.criticalDice times (.dice sides more) critical)
      (.dice times (.criticalDice sides more critical)) where
  firstAssembled :=
    .criticalDice timesAssembled (.dice sidesAssembled moreAssembled) criticalAssembled
  secondAssembled :=
    .dice timesAssembled (.criticalDice sidesAssembled moreAssembled criticalAssembled)
  differ := by simp
  same := render_eq_iff.mpr (by
    rw [shape, shape, shape, shape, Shape.followed_followed, Shape.followed_followed])

theorem writtenAlike_dice_negation (negated : (negation times).IsAssembled)
    (sidesAssembled : sides.IsAssembled) :
    WrittenAlike (.dice (.negation times) sides) (.negation (.dice times sides)) where
  firstAssembled := .dice negated sidesAssembled
  secondAssembled := .negate (.dice negated.negate sidesAssembled)
  differ := by simp
  same := rfl

private theorem writtenAlike_dice_negative {value : Int64} (notLeast : value ≠ Int64.minValue)
    (negative : value < 0) (sidesAssembled : sides.IsAssembled) :
    WrittenAlike (.dice (.number value) sides) (.negation (.dice (.number (-value)) sides)) where
  firstAssembled := .dice (.number value) sidesAssembled
  secondAssembled := .negate (.dice (.number (-value)) sidesAssembled)
  differ := by simp
  same := congrArg (fun digits => String.ofList (digits ++ 'D' :: sides.enclosed 4 sides.written))
    (Numeral.written_of_neg notLeast negative)

/-- These are written `2D6D3` and `-2D6`. -/
theorem nested_dice_writtenAlike :
    WrittenAlike (.dice (.dice (.number 2) (.number 6)) (.number 3))
        (.dice (.number 2) (.dice (.number 6) (.number 3))) ∧
      WrittenAlike (.dice (.number (-2)) (.number 6))
        (.negation (.dice (.number 2) (.number 6))) :=
  ⟨writtenAlike_dice_dice (.number 2) (.number 6) (.number 3),
    writtenAlike_dice_negative (by decide) (by decide) (.number 6)⟩

end WrittenAlike

end DiceLanguage.Formula
