import DiceLanguage.Text.Blank

/-!
# Texts without blanks

Digits are not blank, and a text without blanks has nothing to trim.
-/

set_option autoImplicit false

namespace DiceLanguage.Text

theorem isBlank_of_isDigit {digit : Char} (isDigit : digit.isDigit = true) :
    isBlank digit = false := by
  have bounds : 48 ≤ digit.toNat ∧ digit.toNat ≤ 57 := Char.isDigit_iff_toNat.mp isDigit
  simp only [isBlank, Bool.or_eq_false_iff, Bool.and_eq_false_iff, decide_eq_false_iff_not]
  omega

theorem isSeparator_of_isDigit {digit : Char} (isDigit : digit.isDigit = true) :
    isSeparator digit = false := by
  rw [Bool.eq_false_iff]
  intro separator
  have solid := isBlank_of_isDigit isDigit
  rw [isBlank_of_isSeparator separator] at solid
  cases solid

private theorem dropWhile_isBlank {text : List Char}
    (solid : ∀ character ∈ text, isBlank character = false) :
    text.dropWhile isBlank = text := by
  cases text with
  | nil => rfl
  | cons character rest =>
      rw [List.dropWhile_cons_of_neg]
      rw [solid character List.mem_cons_self]
      exact Bool.false_ne_true

theorem trimmed_eq_self {text : List Char} (solid : ∀ character ∈ text, isBlank character = false) :
    trimmed text = text := by
  rw [trimmed, dropWhile_isBlank solid, dropWhile_isBlank, List.reverse_reverse]
  intro character member
  exact solid character (List.mem_reverse.mp member)

end DiceLanguage.Text
