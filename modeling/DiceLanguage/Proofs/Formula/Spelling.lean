import DiceLanguage.Formula.Render
import DiceLanguage.Proofs.Formula.Unfolding
import DiceLanguage.Proofs.Reading.Sentences
import DiceLanguage.Proofs.Text.Numeral
import DiceLanguage.Proofs.Token

/-!
# What is written for a formula

A canonical formula is written without parentheses, and the tokens of what is
written spell the formula with its negative literals unfolded. Reading them
gives the formula back.
-/

set_option autoImplicit false

namespace DiceLanguage

open Text

namespace Formula

private theorem enclosed_of_le {operand : Formula} {least : Nat}
    (tight : least ≤ operand.precedence)
    (characters : List Char) : operand.enclosed least characters = characters := by
  rw [enclosed, if_neg (by omega)]

private theorem IsRoll.precedence_eq {formula : Formula} (roll : IsRoll formula) :
    formula.precedence = 4 := by
  cases roll <;> rfl

private theorem IsFactor.precedence_eq {formula : Formula} (factor : IsFactor formula) :
    formula.precedence = 4 := by
  cases factor with
  | number => rfl
  | roll roll => exact roll.precedence_eq
  | negation => rfl

private theorem IsProduct.le_precedence {formula : Formula} (product : IsProduct formula) :
    2 ≤ formula.precedence := by
  cases product with
  | factor factor => rw [factor.precedence_eq]; omega
  | times => exact Nat.le_refl 2
  | divided => exact Nat.le_refl 2

private theorem precedence_operator (sign : Sign) : sign.operator.precedence = 1 := by
  cases sign <;> rfl

private theorem IsCanonical.le_precedence {formula : Formula} (canonical : IsCanonical formula) :
    1 ≤ formula.precedence := by
  cases canonical with
  | product product => exact Nat.le_trans (by omega) product.le_precedence
  | joined => exact Nat.le_of_eq (precedence_operator _).symm

private theorem IsFactor.enclosed_written {formula : Formula} (factor : IsFactor formula) :
    formula.enclosed (Operator.multiply.precedence + 1) formula.written = formula.written :=
  enclosed_of_le (by rw [factor.precedence_eq]; decide) _

private theorem IsProduct.enclosed_written {formula : Formula} (product : IsProduct formula) :
    formula.enclosed Operator.multiply.precedence formula.written = formula.written :=
  enclosed_of_le product.le_precedence _

/-! ## Tokens of what is written -/

private theorem spellsTerm_number (start : Nat) {value : Int64} (nonneg : 0 ≤ value) :
    SpellsTerm (Token.scanFrom start (number value).written) (.number value) := by
  obtain ⟨token, denotes, scanned⟩ := Token.scanFrom_digits start nonneg
  rw [written, Numeral.written_of_nonneg nonneg, scanned]
  exact .number denotes

private theorem spellsTerm_dice (start : Nat) {times sides : Int64} (timesNonneg : 0 ≤ times)
    (sidesNonneg : 0 ≤ sides) :
    SpellsTerm (Token.scanFrom start (dice (number times) (number sides)).written)
      (.dice (.number times) (.number sides)) := by
  have shown : (dice (number times) (number sides)).written =
      Numeral.digits times.toInt.toNat ++ 'D' :: Numeral.digits sides.toInt.toNat := by
    rw [← Numeral.written_of_nonneg timesNonneg, ← Numeral.written_of_nonneg sidesNonneg]
    rfl
  obtain ⟨die, later, isDie, divided⟩ := Token.scanFrom_mark start
    (show TokenKind.ofCharacter? 'D' = some .die from rfl)
    (Numeral.digits times.toInt.toNat) (Numeral.digits sides.toInt.toNat)
  obtain ⟨timesToken, timesDenotes, timesScanned⟩ := Token.scanFrom_digits start timesNonneg
  obtain ⟨sidesToken, sidesDenotes, sidesScanned⟩ := Token.scanFrom_digits later sidesNonneg
  rw [shown, divided, timesScanned, sidesScanned]
  exact .dice timesDenotes isDie sidesDenotes

private theorem IsRoll.spellsTerm {formula : Formula} (roll : IsRoll formula) (start : Nat) :
    SpellsTerm (Token.scanFrom start formula.written) formula := by
  cases roll with
  | dice timesNonneg sidesNonneg => exact spellsTerm_dice start timesNonneg sidesNonneg
  | @criticalDice times sides critical timesNonneg sidesNonneg criticalNonneg =>
      -- What stands before `@` is written as a roll without a critical number.
      have shown : (Formula.criticalDice (.number times) (.number sides) (.number critical)).written =
          (Formula.dice (.number times) (.number sides)).written ++
            '@' :: Numeral.digits critical.toInt.toNat := by
        rw [← Numeral.written_of_nonneg criticalNonneg]
        rfl
      obtain ⟨mark, later, isMark, divided⟩ := Token.scanFrom_mark start
        (show TokenKind.ofCharacter? '@' = some .critical from rfl)
        (Formula.dice (.number times) (.number sides)).written (Numeral.digits critical.toInt.toNat)
      obtain ⟨token, denotes, scanned⟩ := Token.scanFrom_digits later criticalNonneg
      have plain := spellsTerm_dice start timesNonneg sidesNonneg
      rw [shown, divided, scanned]
      generalize Token.scanFrom start _ = tokens at plain ⊢
      cases plain with
      | dice timesDenotes isDie sidesDenotes =>
          exact .criticalDice timesDenotes isDie sidesDenotes isMark denotes

private theorem IsFactor.spellsSigned {formula : Formula} (factor : IsFactor formula)
    (start : Nat) :
    SpellsSigned (Token.scanFrom start formula.written) formula.unfolded := by
  cases factor with
  | @number value notLeast =>
      rw [unfolded]
      split
      next negative =>
        obtain ⟨minus, later, isMinus, divided⟩ := Token.scanFrom_mark_cons start
          (show TokenKind.ofCharacter? '-' = some .minus from rfl) (Formula.number (-value)).written
        have nonneg := nonneg_neg_of_neg notLeast negative
        rw [written, Numeral.written_of_neg notLeast negative, ← written, divided]
        exact .minus isMinus (.term (spellsTerm_number later nonneg))
      next notNegative =>
        exact .term (spellsTerm_number start (Int64.not_lt.mp notNegative))
  | roll roll =>
      have term := roll.spellsTerm start
      cases roll <;> exact .term term
  | @negation operand roll =>
      obtain ⟨minus, later, isMinus, divided⟩ := Token.scanFrom_mark_cons start
        (show TokenKind.ofCharacter? '-' = some .minus from rfl) operand.written
      rw [written, enclosed_of_le (Nat.le_of_eq roll.precedence_eq.symm), divided]
      exact .minus isMinus (.term (roll.spellsTerm later))

private theorem spellsProduct_times {left right : Formula} (leftFactors : IsProduct left)
    (rightFactor : IsFactor right) (start : Nat)
    (leftSpells : SpellsProduct (Token.scanFrom start left.written) left.unfolded) :
    SpellsProduct (Token.scanFrom start (binary left .multiply right).written)
      (.binary left.unfolded .multiply right.unfolded) := by
  obtain ⟨star, later, isStar, divided⟩ := Token.scanFrom_mark start
    (show TokenKind.ofCharacter? '*' = some .star from rfl) left.written right.written
  have shown : (binary left .multiply right).written = left.written ++ '*' :: right.written := by
    rw [written, leftFactors.enclosed_written, rightFactor.enclosed_written]
    rfl
  rw [shown, divided]
  exact .times leftSpells isStar (rightFactor.spellsSigned later)

private theorem spellsProduct_divided {left right : Formula} (leftFactors : IsProduct left)
    (rightFactor : IsFactor right) (rounding : Option Rounding) (start : Nat)
    (leftSpells : SpellsProduct (Token.scanFrom start left.written) left.unfolded) :
    SpellsProduct (Token.scanFrom start (quotient left right rounding).written)
      (.quotient left.unfolded right.unfolded rounding) := by
  obtain ⟨slash, later, isSlash, divided⟩ := Token.scanFrom_mark start
    (show TokenKind.ofCharacter? '/' = some .slash from rfl) left.written
    (right.written ++ (rounding.map Rounding.symbol).toList)
  have rightSpells := rightFactor.spellsSigned later
  have shown : (quotient left right rounding).written =
      left.written ++ '/' :: (right.written ++ (rounding.map Rounding.symbol).toList) := by
    rw [written, leftFactors.enclosed_written, rightFactor.enclosed_written, List.append_assoc,
      List.cons_append]
  rw [shown, divided]
  cases rounding with
  | none =>
      rw [Option.map_none, Option.toList_none, List.append_nil]
      exact .divided leftSpells isSlash rightSpells
  | some rounding =>
      obtain ⟨kind, known, isRounding⟩ : ∃ kind,
          TokenKind.ofCharacter? rounding.symbol = some kind ∧ kind.rounding? = some rounding := by
        cases rounding with
        | up => exact ⟨.roundUp, rfl, rfl⟩
        | nearest => exact ⟨.roundNearest, rfl, rfl⟩
      obtain ⟨mark, last, rfl, ended⟩ := Token.scanFrom_mark later known right.written []
      rw [Option.map_some, Option.toList_some, ended]
      exact .rounded leftSpells isSlash rightSpells isRounding

private theorem IsProduct.spellsProduct {formula : Formula} (product : IsProduct formula)
    (start : Nat) :
    SpellsProduct (Token.scanFrom start formula.written) formula.unfolded := by
  induction product with
  | factor factor => exact .signed (factor.spellsSigned start)
  | times left right ih => exact spellsProduct_times left right start ih
  | divided left right ih => exact spellsProduct_divided left right _ start ih

theorem IsCanonical.spellsSum {formula : Formula} (canonical : IsCanonical formula)
    (start : Nat) : SpellsSum (Token.scanFrom start formula.written) formula.unfolded := by
  induction canonical with
  | product product => exact .product (product.spellsProduct start)
  | @joined left right sign leftCanonical rightProduct _ ih =>
      obtain ⟨kind, known, isSign⟩ : ∃ kind,
          TokenKind.ofCharacter? sign.operator.symbol = some kind ∧ kind.sign? = some sign := by
        cases sign with
        | plus => exact ⟨.plus, rfl, rfl⟩
        | minus => exact ⟨.minus, rfl, rfl⟩
      obtain ⟨mark, later, rfl, divided⟩ :=
        Token.scanFrom_mark start known left.written right.written
      have shown : (binary left sign.operator right).written =
          left.written ++ sign.operator.symbol :: right.written := by
        rw [written, precedence_operator, enclosed_of_le leftCanonical.le_precedence,
          enclosed_of_le rightProduct.le_precedence]
      rw [shown, divided]
      exact .joined ih isSign (rightProduct.spellsProduct later)

theorem IsCanonical.spells_scan {formula : Formula} (canonical : IsCanonical formula) :
    Spells (Token.scan formula.render) formula.unfolded := by
  rw [Token.scan_eq_scanFrom, render, String.toList_ofList]
  exact .plain (canonical.spellsSum 0)

end Formula

/-- What is written for a canonical formula is read as the formula, with no
gap and nothing left over. -/
theorem Reading.ofTokens_scan_render {formula : Formula} (canonical : formula.IsCanonical) :
    ofTokens (Token.scan formula.render) =
      ⟨formula, [], (Token.scan formula.render).length, []⟩ := by
  rw [ofTokens_of_spells canonical.spells_scan, canonical.folded_unfolded]

end DiceLanguage
