import DiceLanguage.Formula
import DiceLanguage.Proofs.Word
import DiceLanguage.Token

/-!
# The grammar of dice formulas

    Formula := S? Sum
    Sum     := Product ((+ | -) Product)*
    Product := Signed ((* Signed) | (/ Signed (U | R)?))*
    Signed  := + Signed | - Signed | Term
    Term    := Number (D Number (@ Number)?)?

Tokens that follow the grammar spell a formula in which every sign stands as
it was given: each minus before an operand is a negation of its own, and a
negative literal is the negation of a positive one. Sums and products group to
the left, and a rounding belongs to the quotient just before it.
-/

set_option autoImplicit false

namespace DiceLanguage

open Text

/-- A number token denotes the word of its decimal value, leading zeros or
not. One above the largest word denotes none. -/
def Token.Denotes (token : Token) (value : Int64) : Prop :=
  token.kind = .number ∧ value.toInt = Numeral.value token.text.toList

theorem Token.number?_eq_some_iff {token : Token} {value : Int64} :
    token.number? = some value ↔ token.Denotes value := by
  unfold Token.number? Token.Denotes Numeral.word?
  split
  next isNumber => simp [Numeral.ofNat?_eq_some_iff, isNumber]
  next other => simp [other]

theorem Token.Denotes.nonneg {token : Token} {value : Int64} (denotes : token.Denotes value) :
    0 ≤ value := by
  rw [nonneg_iff_toInt, denotes.2]
  exact Int.natCast_nonneg _

inductive SpellsTerm : List Token → Formula → Prop where
  | number {token value} : Token.Denotes token value → SpellsTerm [token] (.number value)
  | dice {times die sides count size} :
      Token.Denotes times count → die.kind = .die → Token.Denotes sides size →
      SpellsTerm [times, die, sides] (.dice (.number count) (.number size))
  | criticalDice {times die sides mark critical count size least} :
      Token.Denotes times count → die.kind = .die → Token.Denotes sides size →
      mark.kind = .critical → Token.Denotes critical least →
      SpellsTerm [times, die, sides, mark, critical]
        (.criticalDice (.number count) (.number size) (.number least))

inductive SpellsSigned : List Token → Formula → Prop where
  | term {tokens formula} : SpellsTerm tokens formula → SpellsSigned tokens formula
  | plus {sign tokens formula} :
      sign.kind = .plus → SpellsSigned tokens formula → SpellsSigned (sign :: tokens) formula
  | minus {sign tokens formula} :
      sign.kind = .minus → SpellsSigned tokens formula →
      SpellsSigned (sign :: tokens) (.negation formula)

inductive SpellsProduct : List Token → Formula → Prop where
  | signed {tokens formula} : SpellsSigned tokens formula → SpellsProduct tokens formula
  | times {leftTokens star rightTokens left right} :
      SpellsProduct leftTokens left → star.kind = .star → SpellsSigned rightTokens right →
      SpellsProduct (leftTokens ++ star :: rightTokens) (.binary left .multiply right)
  | divided {leftTokens slash rightTokens left right} :
      SpellsProduct leftTokens left → slash.kind = .slash → SpellsSigned rightTokens right →
      SpellsProduct (leftTokens ++ slash :: rightTokens) (.quotient left right none)
  | rounded {leftTokens slash rightTokens mark left right rounding} :
      SpellsProduct leftTokens left → slash.kind = .slash → SpellsSigned rightTokens right →
      mark.kind.rounding? = some rounding →
      SpellsProduct (leftTokens ++ slash :: (rightTokens ++ [mark]))
        (.quotient left right (some rounding))

inductive SpellsSum : List Token → Formula → Prop where
  | product {tokens formula} : SpellsProduct tokens formula → SpellsSum tokens formula
  | joined {leftTokens mark rightTokens left sign right} :
      SpellsSum leftTokens left → mark.kind.sign? = some sign →
      SpellsProduct rightTokens right →
      SpellsSum (leftTokens ++ mark :: rightTokens) (.binary left sign.operator right)

/-- Tokens spell a formula, with or without a secret marker before it. -/
inductive Spells : List Token → Formula → Prop where
  | plain {tokens formula} : SpellsSum tokens formula → Spells tokens formula
  | secret {marker tokens formula} :
      marker.kind = .secret → SpellsSum tokens formula → Spells (marker :: tokens) formula

end DiceLanguage
