import DiceLanguage.Proofs.Arithmetic.Checked
import Mathlib.Order.Bounds.Basic

/-!
# Quotients of words

A quotient of words is the greatest integer whose product with the divisor does
not pass the dividend. Three machine operations lead to it. The overflow of the
first is reported, and the other two never overflow: `divide_floors`.
-/

set_option autoImplicit false

namespace DiceLanguage.Arithmetic

/-! ## Rounding down -/

section

variable {quotient dividend divisor : Int}

private theorem le_fdiv_iff_of_pos (positive : 0 < divisor) :
    quotient ≤ dividend.fdiv divisor ↔ quotient * divisor ≤ dividend := by
  rw [Int.fdiv_eq_ediv_of_nonneg _ (Int.le_of_lt positive), Int.le_ediv_iff_mul_le positive]

private theorem le_fdiv_iff_of_neg (negative : divisor < 0) :
    quotient ≤ dividend.fdiv divisor ↔ dividend ≤ quotient * divisor := by
  rw [← Int.neg_fdiv_neg, le_fdiv_iff_of_pos (Int.neg_pos_of_neg negative), Int.mul_neg,
    Int.neg_le_neg_iff]

private theorem isGreatest_fdiv_of_pos (positive : 0 < divisor) :
    IsGreatest {quotient : Int | quotient * divisor ≤ dividend} (dividend.fdiv divisor) :=
  ⟨(le_fdiv_iff_of_pos positive).mp (Int.le_refl _), fun _ => (le_fdiv_iff_of_pos positive).mpr⟩

private theorem isGreatest_fdiv_of_neg (negative : divisor < 0) :
    IsGreatest {quotient : Int | dividend ≤ quotient * divisor} (dividend.fdiv divisor) :=
  ⟨(le_fdiv_iff_of_neg negative).mp (Int.le_refl _), fun _ => (le_fdiv_iff_of_neg negative).mpr⟩

end

/-! ## Machine operations -/

/-- The word of the exact result of a machine operation, which overflows when
there is none. -/
def word? (value : Int) : Option Int64 := (checked value).toOption

def truncated? (dividend divisor : Int64) : Option Int64 :=
  if divisor = 0 then none else word? (dividend.toInt.tdiv divisor.toInt)

/-- The remainder is found by dividing, so it overflows when the quotient does,
small as it is itself. -/
def remainder? (dividend divisor : Int64) : Option Int64 := do
  let _ ← truncated? dividend divisor
  word? (dividend.toInt.tmod divisor.toInt)

def predecessor? (word : Int64) : Option Int64 := word? (word.toInt - 1)

/-- Division, one machine operation after the other. The overflow of the
quotient is a fault; `none` is the overflow of a later operation. -/
def divideStepwise? (dividend divisor : Int64) : Option (Except Fault Int64) :=
  if divisor = 0 then
    some (.error .divisionByZero)
  else
    match truncated? dividend divisor with
    | none => some (.error .overflow)
    | some quotient => do
        let remainder ← remainder? dividend divisor
        if remainder ≠ 0 ∧ decide (dividend < 0) ≠ decide (divisor < 0) then
          let lower ← predecessor? quotient
          return .ok lower
        else
          return .ok quotient

private theorem word?_toInt (word : Int64) : word? word.toInt = some word := by
  rw [word?, checked_toInt]
  rfl

section

variable {dividend divisor : Int64} (nonzero : divisor ≠ 0)
  (fits : ¬(dividend = Int64.minValue ∧ divisor = -1))

include nonzero fits

private theorem truncated?_eq : truncated? dividend divisor = some (dividend / divisor) := by
  rw [truncated?, if_neg nonzero, ← toInt_div_eq_tdiv fits, word?_toInt]

private theorem remainder?_eq : remainder? dividend divisor = some (dividend % divisor) := by
  rw [remainder?, truncated?_eq nonzero fits, ← Int64.toInt_mod, word?_toInt]
  rfl

private theorem predecessor?_div (remains : dividend % divisor ≠ 0) :
    predecessor? (dividend / divisor) = some (dividend / divisor - 1) := by
  rw [ne_eq, eq_zero_iff_toInt, Int64.toInt_mod] at remains
  rw [predecessor?, ← toInt_div_sub_one fits (mt eq_zero_iff_toInt.mpr nonzero) remains,
    word?_toInt]

end

theorem divideStepwise?_eq (dividend divisor : Int64) :
    divideStepwise? dividend divisor = some (divide dividend divisor) := by
  by_cases isZero : divisor = 0
  · rw [divideStepwise?, divide, if_pos isZero, if_pos isZero]
  by_cases wraps : dividend = Int64.minValue ∧ divisor = -1
  · obtain ⟨rfl, rfl⟩ := wraps
    rfl
  rw [divideStepwise?, divide, if_neg isZero, if_neg isZero, if_neg wraps,
    truncated?_eq isZero wraps]
  dsimp only
  rw [remainder?_eq isZero wraps, Option.bind_eq_bind, Option.bind_some]
  by_cases rounds : dividend % divisor ≠ 0 ∧ decide (dividend < 0) ≠ decide (divisor < 0)
  · rw [if_pos rounds, if_pos rounds, predecessor?_div isZero wraps rounds.1]
    rfl
  · rw [if_neg rounds, if_neg rounds]
    rfl

/-! ## Quotients -/

section

variable {dividend divisor : Int64}

private theorem exists_divide (nonzero : divisor ≠ 0)
    (fits : ¬(dividend = Int64.minValue ∧ divisor = -1)) :
    ∃ quotient, divide dividend divisor = .ok quotient := by
  rw [divide, if_neg nonzero, if_neg fits]
  split
  · exact ⟨_, rfl⟩
  · exact ⟨_, rfl⟩

private theorem toInt_of_divide {quotient : Int64}
    (found : divide dividend divisor = .ok quotient) :
    quotient.toInt = dividend.toInt.fdiv divisor.toInt := by
  rw [divide_eq, checked_eq] at found
  split at found
  · cases found
  · split at found
    next isWord =>
      cases found
      exact toInt_ofInt_of_isWord isWord
    next => cases found

end

/-- Division by zero and the one quotient that is no word are faults. Every
other quotient is rounded down exactly, whatever the signs, and no operation on
the way to it overflows. -/
theorem divide_floors (dividend divisor : Int64) :
    (divisor = 0 → divide dividend divisor = .error .divisionByZero) ∧
    (dividend = Int64.minValue ∧ divisor = -1 → divide dividend divisor = .error .overflow) ∧
    (divisor ≠ 0 → ¬(dividend = Int64.minValue ∧ divisor = -1) →
      ∃ quotient, divide dividend divisor = .ok quotient ∧
        (0 < divisor →
          IsGreatest {exact : Int | exact * divisor.toInt ≤ dividend.toInt} quotient.toInt) ∧
        (divisor < 0 →
          IsGreatest {exact : Int | dividend.toInt ≤ exact * divisor.toInt} quotient.toInt)) ∧
    divideStepwise? dividend divisor = some (divide dividend divisor) := by
  refine ⟨?_, ?_, ?_, divideStepwise?_eq dividend divisor⟩
  · rintro rfl
    rfl
  · rintro ⟨rfl, rfl⟩
    rfl
  · intro nonzero fits
    obtain ⟨quotient, found⟩ := exists_divide nonzero fits
    refine ⟨quotient, found, ?_, ?_⟩
    · intro positive
      rw [toInt_of_divide found]
      exact isGreatest_fdiv_of_pos (pos_iff_toInt.mp positive)
    · intro negative
      rw [toInt_of_divide found]
      exact isGreatest_fdiv_of_neg (neg_iff_toInt.mp negative)

/-- A quotient that is not exact, by a negative divisor. -/
theorem divide_floors_largest :
    let dividend := Int64.maxValue
    let divisor : Int64 := -2
    divisor ≠ 0 ∧ ¬(dividend = Int64.minValue ∧ divisor = -1) ∧ divisor < 0 ∧
      divide dividend divisor = .ok (-4611686018427387904) ∧
      IsGreatest {exact : Int | 9223372036854775807 ≤ exact * -2} (-4611686018427387904) ∧
      divideStepwise? dividend divisor = some (.ok (-4611686018427387904)) := by
  intro dividend divisor
  have nonzero : divisor ≠ 0 := by decide
  have fits : ¬(dividend = Int64.minValue ∧ divisor = -1) := by decide
  have negative : divisor < 0 := by decide
  have value : divide Int64.maxValue (-2) = .ok (-4611686018427387904) := by rfl
  obtain ⟨_, _, floors, stepwise⟩ := divide_floors dividend divisor
  obtain ⟨quotient, found, _, floor⟩ := floors nonzero fits
  obtain rfl := Except.ok.inj (value.symm.trans found)
  exact ⟨nonzero, fits, negative, value, floor negative, value ▸ stepwise⟩

end DiceLanguage.Arithmetic
