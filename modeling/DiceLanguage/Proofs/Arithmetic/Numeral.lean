import DiceLanguage.Proofs.Arithmetic.Exactness
import DiceLanguage.Proofs.Text.Numeral

/-!
# Evaluating numerals

What is written for a word evaluates to the word. The least word is the
exception: its magnitude is no word, so its negation is never reached.
-/

set_option autoImplicit false

namespace DiceLanguage.Arithmetic

open Text

private theorem pieces_digits (number : Nat) :
    pieces Lexeme.role (Numeral.digits number) = [⟨0, Numeral.digits number⟩] :=
  pieces_joining (Numeral.digits_ne_nil number)
    fun _ member => Lexeme.role_of_isDigit (Numeral.isDigit_of_mem_digits member)

private theorem symbol_ofPiece_digits (number start : Nat) :
    (Lexeme.ofPiece ⟨start, Numeral.digits number⟩).symbol = .literal number := by
  rw [Lexeme.ofPiece, Symbol.ofPiece_of_isDigit fun _ => Numeral.isDigit_of_mem_digits,
    Numeral.value_digits]

private theorem symbols_digits (number : Nat) :
    symbols (String.ofList (Numeral.digits number)) = [.literal number] := by
  rw [symbols, Lexeme.scan, String.toList_ofList, pieces_digits]
  simp [symbol_ofPiece_digits]

private theorem symbols_minus_digits (number : Nat) :
    symbols (String.ofList ('-' :: Numeral.digits number)) = [.minus, .literal number] := by
  have divided := pieces_append_alone (show Lexeme.role '-' = .alone from rfl) []
    (Numeral.digits number)
  rw [List.nil_append, pieces_digits] at divided
  rw [symbols, Lexeme.scan, String.toList_ofList, divided]
  simp [Piece.shift, symbol_ofPiece_digits]
  rfl

theorem outcome_signed_word (signs : List Sign) {word : Int64} (nonneg : 0 ≤ word) :
    (Expression.signed signs (.literal word.toInt.toNat)).outcome =
      .ok (if negates signs then -word else word) := by
  have literal : Numeral.ofNat? word.toInt.toNat = some word :=
    Numeral.ofNat?_eq_some_iff.mpr (Int.toNat_of_nonneg (nonneg_iff_toInt.mp nonneg)).symm
  have turned : negate word = .ok (-word) := by
    rw [negate, ← toInt_neg_of_ne_least (ne_least_of_nonneg nonneg), checked_toInt]
  rw [Expression.outcome_signed, Expression.outcome_literal, literal]
  change ite _ _ _ = _
  split
  next => exact turned
  next => rfl

theorem evaluate_signed_word {text : String} (signs : List Sign) {word : Int64}
    (nonneg : 0 ≤ word)
    (spelled : symbols text = signs.map Symbol.ofSign ++ [.literal word.toInt.toNat]) :
    evaluate text = .ok (if negates signs then -word else word) := by
  have derived : Derives .sum (signs.map Symbol.ofSign ++ [.literal word.toInt.toNat])
      (.signed signs (.literal word.toInt.toNat)) := .term (.factor (.signed signs .literal))
  rw [← spelled] at derived
  rw [evaluate_of_derives derived (Nat.zero_le _), outcome_signed_word signs nonneg]

theorem evaluate_render {word : Int64} (notLeast : word ≠ Int64.minValue) :
    evaluate (Numeral.render word) = .ok word := by
  rw [Numeral.render]
  by_cases nonneg : 0 ≤ word
  · rw [Numeral.written_of_nonneg nonneg]
    exact evaluate_signed_word [] nonneg (symbols_digits word.toInt.toNat)
  · have negative := Int64.not_le.mp nonneg
    have turned := nonneg_neg_of_neg notLeast negative
    rw [Numeral.written_of_neg notLeast negative, Numeral.written_of_nonneg turned,
      evaluate_signed_word [.minus] turned (symbols_minus_digits (-word).toInt.toNat)]
    simp [negates]

theorem evaluate_render_least :
    evaluate (Numeral.render Int64.minValue) = .error .overflow := by
  rfl

theorem evaluate_render_eq_ok_iff {word : Int64} :
    evaluate (Numeral.render word) = .ok word ↔ word ≠ Int64.minValue := by
  constructor
  · rintro evaluated rfl
    rw [evaluate_render_least] at evaluated
    cases evaluated
  · exact evaluate_render

end DiceLanguage.Arithmetic
