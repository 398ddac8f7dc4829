import DiceLanguage.Proofs.Word
import DiceLanguage.Text.Numeral

/-!
# Numerals of words

What is written for a word, by its sign. The least word has no magnitude among
the words and is left out.
-/

set_option autoImplicit false

namespace DiceLanguage.Text.Numeral

theorem written_of_nonneg {word : Int64} (nonneg : 0 ≤ word) :
    written word = digits word.toInt.toNat := by
  rw [nonneg_iff_toInt] at nonneg
  unfold written
  split
  next magnitude same => rw [same]; rfl
  next predecessor same => omega

theorem written_of_neg {word : Int64} (notLeast : word ≠ Int64.minValue) (negative : word < 0) :
    written word = '-' :: written (-word) := by
  have turned := toInt_neg_of_ne_least notLeast
  rw [written_of_nonneg (nonneg_neg_of_neg notLeast negative)]
  rw [neg_iff_toInt] at negative
  unfold written
  split
  next magnitude same =>
    rw [same] at negative
    exact absurd negative (Int.not_lt.mpr (Int.natCast_nonneg magnitude))
  next predecessor same =>
    have magnitude : (-word).toInt.toNat = predecessor + 1 := by omega
    rw [magnitude]

theorem written_ne_nil (word : Int64) : written word ≠ [] := by
  unfold written
  split
  next => exact digits_ne_nil _
  next => exact List.cons_ne_nil _ _

theorem minus_not_mem_digits (number : Nat) : '-' ∉ digits number :=
  fun member => absurd (isDigit_of_mem_digits member) (by decide)

theorem digits_injective : Function.Injective digits := by
  intro number other same
  rw [← value_digits number, same, value_digits]

theorem written_injective : Function.Injective written := by
  intro word other same
  apply Int64.toInt.inj
  unfold written at same
  split at same
  next magnitude nonneg =>
    split at same
    next otherMagnitude otherNonneg => rw [nonneg, otherNonneg, digits_injective same]
    next => exact absurd (same ▸ List.mem_cons_self) (minus_not_mem_digits magnitude)
  next predecessor negative =>
    split at same
    next otherMagnitude _ =>
      exact absurd (same ▸ List.mem_cons_self) (minus_not_mem_digits otherMagnitude)
    next otherPredecessor otherNegative =>
      have magnitudes := digits_injective (List.cons.inj same).2
      rw [negative, otherNegative, Nat.succ.inj magnitudes]

end DiceLanguage.Text.Numeral
