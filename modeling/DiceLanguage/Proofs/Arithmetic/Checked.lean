import DiceLanguage.Arithmetic.Checked
import DiceLanguage.Proofs.Word

/-!
# Checked arithmetic on integers

Each checked operation gives the word of the exact integer, or overflows
because there is none. Quotients are those of floor division.
-/

set_option autoImplicit false

namespace DiceLanguage.Arithmetic

def IsWord (value : Int) : Prop :=
  Int64.minValue.toInt ≤ value ∧ value ≤ Int64.maxValue.toInt

instance (value : Int) : Decidable (IsWord value) := inferInstanceAs (Decidable (_ ∧ _))

theorem isWord_toInt (word : Int64) : IsWord word.toInt :=
  ⟨word.minValue_le_toInt, word.toInt_le⟩

theorem toInt_ofInt_of_isWord {value : Int} (isWord : IsWord value) :
    (Int64.ofInt value).toInt = value := by
  obtain ⟨below, above⟩ := isWord
  rw [Int64.toInt_minValue] at below
  rw [Int64.toInt_maxValue] at above
  exact Int64.toInt_ofInt_of_le below (by omega)

theorem checked_eq (value : Int) :
    checked value = if IsWord value then .ok (Int64.ofInt value) else .error .overflow :=
  rfl

theorem checked_toInt (word : Int64) : checked word.toInt = .ok word := by
  rw [checked_eq, if_pos (isWord_toInt word), Int64.ofInt_toInt]

/-! ## Quotients -/

/-- Rounding down takes one from the truncated quotient exactly when there is
a remainder and the signs differ. -/
private theorem fdiv_eq_tdiv_sub {dividend divisor : Int} (nonzero : divisor ≠ 0) :
    dividend.fdiv divisor =
      dividend.tdiv divisor -
        if dividend.tmod divisor ≠ 0 ∧ ((dividend < 0) ↔ ¬(divisor < 0)) then 1 else 0 := by
  have exactly := @Int.dvd_iff_tmod_eq_zero divisor dividend
  rw [Int.fdiv_eq_tdiv]
  congr 1
  by_cases divides : divisor ∣ dividend
  · simp [divides, exactly.mp divides]
  · have remains : dividend.tmod divisor ≠ 0 := fun zero => divides (exactly.mpr zero)
    rw [if_neg divides]
    rcases Int.lt_or_gt_of_ne nonzero with below | above
    · have sign := Int.sign_eq_neg_one_of_neg below
      by_cases negative : dividend < 0
      · rw [if_neg (by omega), if_neg (by omega), if_neg (by omega)]
        omega
      · rw [if_pos (by omega), if_neg (by omega), if_pos (by omega)]
    · have sign := Int.sign_eq_one_of_pos above
      by_cases negative : dividend < 0
      · rw [if_neg (by omega), if_pos (by omega), if_pos (by omega)]
        omega
      · rw [if_pos (by omega), if_pos (by omega), if_neg (by omega)]

/-- With a remainder the quotient stays clear of the least word. -/
private theorem least_lt_tdiv {dividend divisor : Int} (isWord : IsWord dividend)
    (nonzero : divisor ≠ 0)
    (remains : dividend.tmod divisor ≠ 0) : Int64.minValue.toInt < dividend.tdiv divisor := by
  have size : (dividend.tdiv divisor).natAbs = dividend.natAbs / divisor.natAbs :=
    Int.natAbs_tdiv dividend divisor
  have notOne : divisor ≠ 1 := by
    rintro rfl
    exact remains (by simp)
  have notMinusOne : divisor ≠ -1 := by
    rintro rfl
    exact remains (by simp [Int.tmod_neg])
  have halved : dividend.natAbs / divisor.natAbs ≤ dividend.natAbs / 2 :=
    Nat.div_le_div_left (by omega) (by decide)
  unfold IsWord at isWord
  rw [Int64.toInt_minValue, Int64.toInt_maxValue] at isWord
  rw [Int64.toInt_minValue]
  omega

theorem toInt_div_eq_tdiv {dividend divisor : Int64}
    (fits : ¬(dividend = Int64.minValue ∧ divisor = -1)) :
    (dividend / divisor).toInt = dividend.toInt.tdiv divisor.toInt := by
  by_cases least : dividend = Int64.minValue
  · exact Int64.toInt_div_of_ne_right _ _ fun minusOne => fits ⟨least, minusOne⟩
  · exact Int64.toInt_div_of_ne_left _ _ least

/-- Rounding down never wraps. -/
theorem toInt_div_sub_one {dividend divisor : Int64}
    (fits : ¬(dividend = Int64.minValue ∧ divisor = -1)) (nonzero : divisor.toInt ≠ 0)
    (remains : dividend.toInt.tmod divisor.toInt ≠ 0) :
    (dividend / divisor - 1).toInt = (dividend / divisor).toInt - 1 := by
  have clear := least_lt_tdiv (isWord_toInt dividend) nonzero remains
  rw [Int64.toInt_minValue, ← toInt_div_eq_tdiv fits] at clear
  have above := (dividend / divisor).toInt_lt
  rw [Int64.toInt_sub, Int64.toInt_one, Int.bmod_eq_of_le (by omega) (by omega)]

/-- The remainder and the signs of words tell when to round down. -/
private theorem rounds_iff (dividend divisor : Int64) :
    (dividend % divisor ≠ 0 ∧ decide (dividend < 0) ≠ decide (divisor < 0)) ↔
      dividend.toInt.tmod divisor.toInt ≠ 0 ∧ (dividend.toInt < 0 ↔ ¬(divisor.toInt < 0)) := by
  have remainder : dividend % divisor = 0 ↔ dividend.toInt.tmod divisor.toInt = 0 := by
    rw [eq_zero_iff_toInt, Int64.toInt_mod]
  have signs : decide (dividend < 0) ≠ decide (divisor < 0) ↔
      (dividend.toInt < 0 ↔ ¬(divisor.toInt < 0)) := by
    rw [← neg_iff_toInt, ← neg_iff_toInt]
    by_cases negative : dividend < 0 <;> by_cases below : divisor < 0 <;> simp [negative, below]
  rw [ne_eq, remainder, signs]

theorem divide_eq (dividend divisor : Int64) :
    divide dividend divisor =
      if divisor.toInt = 0 then .error .divisionByZero
      else checked (dividend.toInt.fdiv divisor.toInt) := by
  by_cases isZero : divisor = 0
  · rw [divide, if_pos isZero, if_pos (eq_zero_iff_toInt.mp isZero)]
  have nonzero : divisor.toInt ≠ 0 := mt eq_zero_iff_toInt.mpr isZero
  rw [divide, if_neg isZero, if_neg nonzero]
  -- The least word by `-1` is the one quotient that has no word.
  by_cases wraps : dividend = Int64.minValue ∧ divisor = -1
  · rw [if_pos wraps, wraps.1, wraps.2]
    rfl
  rw [if_neg wraps, fdiv_eq_tdiv_sub nonzero]
  have quotient := toInt_div_eq_tdiv wraps
  by_cases rounds : dividend % divisor ≠ 0 ∧ decide (dividend < 0) ≠ decide (divisor < 0)
  · have rounds' := (rounds_iff dividend divisor).mp rounds
    have less := toInt_div_sub_one wraps nonzero rounds'.1
    rw [if_pos rounds, if_pos rounds', ← quotient, ← less, checked_toInt]
  · have exactly := mt (rounds_iff dividend divisor).mpr rounds
    rw [if_neg rounds, if_neg exactly, Int.sub_zero, ← quotient, checked_toInt]

end DiceLanguage.Arithmetic
