/-!
# Words and their integers

Facts on 64-bit words that are stated on the integers they stand for. Only the
least word has no negation.
-/

set_option autoImplicit false

namespace DiceLanguage

theorem toInt_neg_of_ne_least {word : Int64} (notLeast : word ≠ Int64.minValue) :
    (-word).toInt = -word.toInt := by
  have different : word.toInt ≠ Int64.minValue.toInt :=
    fun same => notLeast (Int64.toInt.inj same)
  have below := word.le_toInt
  have above := word.toInt_lt
  rw [Int64.toInt_minValue] at different
  rw [Int64.toInt_neg, Int.bmod_eq_of_le (by omega) (by omega)]

theorem ne_least_of_nonneg {word : Int64} (nonneg : 0 ≤ word) : word ≠ Int64.minValue := by
  rintro rfl
  exact absurd nonneg (by decide)

theorem eq_zero_iff_toInt {word : Int64} : word = 0 ↔ word.toInt = 0 := by
  rw [← Int64.toInt_inj, Int64.toInt_zero]

theorem nonneg_iff_toInt {word : Int64} : 0 ≤ word ↔ 0 ≤ word.toInt := by
  rw [Int64.le_iff_toInt_le, Int64.toInt_zero]

theorem neg_iff_toInt {word : Int64} : word < 0 ↔ word.toInt < 0 := by
  rw [Int64.lt_iff_toInt_lt, Int64.toInt_zero]

theorem pos_iff_toInt {word : Int64} : 0 < word ↔ 0 < word.toInt := by
  rw [Int64.lt_iff_toInt_lt, Int64.toInt_zero]

theorem neg_ne_least_of_nonneg {word : Int64} (nonneg : 0 ≤ word) : -word ≠ Int64.minValue := by
  intro least
  have turned := toInt_neg_of_ne_least (ne_least_of_nonneg nonneg)
  have above := word.toInt_lt
  rw [least, Int64.toInt_minValue] at turned
  omega

theorem nonneg_neg_of_neg {word : Int64} (notLeast : word ≠ Int64.minValue)
    (negative : word < 0) : 0 ≤ -word := by
  rw [nonneg_iff_toInt, toInt_neg_of_ne_least notLeast]
  rw [neg_iff_toInt] at negative
  omega

end DiceLanguage
