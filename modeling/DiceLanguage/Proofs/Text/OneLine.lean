import DiceLanguage.Text.Numeral
import DiceLanguage.Text.Quoted

/-!
# Texts on one line

Numerals have no line feed, and neither has a quoted text, whatever it quotes:
a line feed is quoted by an escape.
-/

set_option autoImplicit false

namespace DiceLanguage.Text

def IsOneLine (text : String) : Prop := '\n' ∉ text.toList

theorem IsOneLine.append {left right : String} (first : IsOneLine left)
    (second : IsOneLine right) : IsOneLine (left ++ right) := by
  simpa only [IsOneLine, String.toList_append, List.mem_append, not_or] using
    And.intro first second

theorem Numeral.isOneLine_count (value : Nat) : IsOneLine (count value) := by
  rw [IsOneLine, count, String.toList_ofList]
  intro member
  exact absurd (isDigit_of_mem_digits member) (by decide)

namespace Quoted

private theorem ne_lineFeed_of_mem_hexadecimal {number : Nat} {digit : Char}
    (member : digit ∈ Nat.toDigits 16 number) : digit ≠ '\n' := by
  induction number using Nat.strongRecOn with
  | ind number ih =>
      rw [Nat.toDigits_eq_if (by decide)] at member
      split at member
      next =>
        rw [List.mem_singleton.mp member]
        exact Nat.digitChar_ne '\n' rfl
      next large =>
        rcases List.mem_append.mp member with earlier | last
        · exact ih (number / 16) (by omega) earlier
        · rw [List.mem_singleton.mp last]
          exact Nat.digitChar_ne '\n' rfl

private theorem lineFeed_not_mem_escaped (character : Char) : '\n' ∉ escaped character := by
  unfold escaped
  split
  case h_7 notLineFeed _ _ _ =>
    split
    next => simpa using Ne.symm notLineFeed
    next =>
      intro member
      have digit : '\n' ∈ Nat.toDigits 16 character.toNat := by simpa [codePoint] using member
      exact ne_lineFeed_of_mem_hexadecimal digit rfl
  all_goals decide

theorem isOneLine_ofString (text : String) : IsOneLine (ofString text) := by
  simp [IsOneLine, ofString, lineFeed_not_mem_escaped]

end Quoted

end DiceLanguage.Text
