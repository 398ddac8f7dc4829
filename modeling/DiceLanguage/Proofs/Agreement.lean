import DiceLanguage.Proofs.Formula.Bounds
import DiceLanguage.Proofs.Reading.Value
import DiceLanguage.Proofs.Rendering
import DiceLanguage.Proofs.Token.Shared

/-!
# Formulas and arithmetic agree

A text of digits, the four operators and separators can be read as a dice
formula and evaluated as arithmetic. It has a value exactly when it is a formula
that can be computed on words, and the value is that of the formula. What
folding does to the signs of the formula cannot be told from the value.
-/

set_option autoImplicit false

namespace DiceLanguage

open Text

/-! ## Symbols of tokens -/

namespace Token

variable {token : Token}

private theorem symbol_eq_ofSign_iff {sign : Sign} :
    token.symbol = .ofSign sign ↔ token.kind.sign? = some sign := by
  cases kind : token.kind <;> cases sign <;>
    simp [symbol, kind, TokenKind.sign?, Arithmetic.Symbol.ofSign]

private theorem symbol_eq_star_iff : token.symbol = .star ↔ token.kind = .star := by
  cases kind : token.kind <;> simp [symbol, kind]

private theorem symbol_eq_slash_iff : token.symbol = .slash ↔ token.kind = .slash := by
  cases kind : token.kind <;> simp [symbol, kind]

private theorem symbol_eq_literal_iff {value : Nat} :
    token.symbol = .literal value ↔
      token.kind = .number ∧ Numeral.value token.text.toList = value := by
  cases kind : token.kind <;> simp [symbol, kind]

private theorem symbol_ne_opening : token.symbol ≠ .opening := by
  cases kind : token.kind <;> simp [symbol, kind]

private theorem Denotes.symbol_eq {value : Int64} (denotes : token.Denotes value) :
    token.symbol = .literal value.toInt.toNat := by
  rw [symbol_eq_literal_iff]
  have same := denotes.2
  exact ⟨denotes.1, by omega⟩

end Token

/-! ## Values of expressions and formulas -/

/-- An expression without groups and a formula have the same integer, and one
can be computed on words exactly when the other can. -/
structure Agrees (roll : Int → Int → Option Int → Int) (formula : Formula)
    (expression : Arithmetic.Expression) : Prop where
  flat : expression.depth = 0
  value : expression.value = formula.value (.floored roll)
  faultless : (∀ step ∈ expression.steps, step.fault? = none) ↔ formula.IsBounded (.floored roll)

namespace Agrees

open Arithmetic

variable {roll : Int → Int → Option Int → Int} {left right : Formula}
  {leftExpression rightExpression : Expression}

private theorem signed (signs : List Sign) {word : Int64} (nonneg : 0 ≤ word) :
    Agrees roll (.number (if negates signs then -word else word))
      (.signed signs (.literal word.toInt.toNat)) := by
  obtain ⟨faultless, value⟩ := Expression.outcome_eq_ok_iff.mp (outcome_signed_word signs nonneg)
  exact ⟨rfl, value.symm, iff_of_true faultless (Formula.isBounded_number _ _)⟩

private theorem forall_steps_append {first second : List Expression} {last : Expression} :
    (∀ step ∈ first ++ second ++ [last], step.fault? = none) ↔
      (∀ step ∈ first, step.fault? = none) ∧ (∀ step ∈ second, step.fault? = none) ∧
        last.fault? = none := by
  simp only [List.forall_mem_append, List.forall_mem_singleton, and_assoc]

private theorem times (leftAgrees : Agrees roll left leftExpression)
    (rightAgrees : Agrees roll right rightExpression) :
    Agrees roll (.binary left .multiply right)
      (.scaled leftExpression .times rightExpression) where
  flat := by rw [Expression.depth, leftAgrees.flat, rightAgrees.flat, Nat.max_self]
  value := by
    rw [Expression.value, leftAgrees.value, rightAgrees.value]
    rfl
  faultless := by
    rw [Expression.steps, forall_steps_append, Formula.isBounded_binary, leftAgrees.faultless,
      rightAgrees.faultless, Expression.fault?, Expression.overflow?_eq_none_iff,
      leftAgrees.value, rightAgrees.value]
    rfl

private theorem divided (leftAgrees : Agrees roll left leftExpression)
    (rightAgrees : Agrees roll right rightExpression) :
    Agrees roll (.quotient left right none) (.scaled leftExpression .over rightExpression) where
  flat := by rw [Expression.depth, leftAgrees.flat, rightAgrees.flat, Nat.max_self]
  value := by
    rw [Expression.value, leftAgrees.value, rightAgrees.value]
    rfl
  faultless := by
    have last : (Expression.scaled leftExpression .over rightExpression).fault? = none ↔
        right.value (.floored roll) ≠ 0 ∧
          IsWord ((Formula.quotient left right none).value (.floored roll)) := by
      rw [Expression.fault?, leftAgrees.value, rightAgrees.value]
      split
      next zero => simp [zero]
      next nonzero =>
        rw [Expression.overflow?_eq_none_iff]
        exact (and_iff_right nonzero).symm
    rw [Expression.steps, forall_steps_append, Formula.isBounded_quotient, leftAgrees.faultless,
      rightAgrees.faultless, last]

private theorem joined (leftAgrees : Agrees roll left leftExpression)
    (rightAgrees : Agrees roll right rightExpression) (turnable : right.IsTurnable)
    (sign : Sign) :
    Agrees roll (left.join sign.operator right)
      (.joined leftExpression sign rightExpression) where
  flat := by rw [Expression.depth, leftAgrees.flat, rightAgrees.flat, Nat.max_self]
  value := by
    rw [Formula.value_join _ turnable, ← leftAgrees.value, ← rightAgrees.value]
    cases sign <;> rfl
  faultless := by
    rw [Expression.steps, forall_steps_append, Formula.isBounded_join _ _ _ turnable,
      leftAgrees.faultless, rightAgrees.faultless, ← leftAgrees.value, ← rightAgrees.value,
      ← Expression.overflow?_eq_none_iff]
    cases sign <;> rfl

end Agrees

/-! ## From formulas to expressions -/

section

variable {tokens : List Token} {formula : Formula}

private theorem SpellsSigned.exists_signs (spelled : SpellsSigned tokens formula)
    (shared : ∀ token ∈ tokens, token.symbol ≠ .unknown) :
    ∃ signs word, 0 ≤ word ∧
      tokens.map Token.symbol =
        signs.map Arithmetic.Symbol.ofSign ++ [.literal word.toInt.toNat] ∧
      formula.folded = .number (if Arithmetic.negates signs then -word else word) := by
  induction spelled with
  | term spelled =>
      cases spelled with
      | @number token value denotes =>
          refine ⟨[], value, denotes.nonneg, ?_, rfl⟩
          simp [denotes.symbol_eq]
      | @dice _ die _ _ _ _ isDie _ =>
          exact absurd (by rw [Token.symbol, isDie]) (shared die (by simp))
      | @criticalDice _ die _ _ _ _ _ _ _ isDie _ _ _ =>
          exact absurd (by rw [Token.symbol, isDie]) (shared die (by simp))
  | @plus mark _ _ kind _ ih =>
      rw [List.forall_mem_cons] at shared
      obtain ⟨signs, word, nonneg, symbols, folded⟩ := ih shared.2
      have sign : mark.symbol = .ofSign .plus := by
        rw [Token.symbol_eq_ofSign_iff, kind]
        rfl
      refine ⟨.plus :: signs, word, nonneg, ?_, ?_⟩
      · rw [List.map_cons, List.map_cons, sign, symbols, List.cons_append]
      · rw [Arithmetic.negates_plus, folded]
  | @minus mark _ _ kind _ ih =>
      rw [List.forall_mem_cons] at shared
      obtain ⟨signs, word, nonneg, symbols, folded⟩ := ih shared.2
      have sign : mark.symbol = .ofSign .minus := by
        rw [Token.symbol_eq_ofSign_iff, kind]
        rfl
      refine ⟨.minus :: signs, word, nonneg, ?_, ?_⟩
      · rw [List.map_cons, List.map_cons, sign, symbols, List.cons_append]
      · rw [Arithmetic.negates_minus, Formula.folded, folded, Formula.negate_number]
        cases Arithmetic.negates signs <;> simp

variable (roll : Int → Int → Option Int → Int)

private theorem SpellsSigned.exists_derives (spelled : SpellsSigned tokens formula)
    (shared : ∀ token ∈ tokens, token.symbol ≠ .unknown) :
    ∃ expression, Arithmetic.Derives .signed (tokens.map Token.symbol) expression ∧
      Agrees roll formula.folded expression := by
  obtain ⟨signs, word, nonneg, symbols, folded⟩ := spelled.exists_signs shared
  rw [symbols, folded]
  exact ⟨_, .signed signs .literal, .signed signs nonneg⟩

private theorem SpellsProduct.exists_derives (spelled : SpellsProduct tokens formula)
    (shared : ∀ token ∈ tokens, token.symbol ≠ .unknown) :
    ∃ expression, Arithmetic.Derives .product (tokens.map Token.symbol) expression ∧
      Agrees roll formula.folded expression := by
  induction spelled with
  | signed spelled =>
      obtain ⟨expression, derived, agrees⟩ := spelled.exists_derives roll shared
      exact ⟨expression, .factor derived, agrees⟩
  | times _ star right ih =>
      rw [List.forall_mem_append, List.forall_mem_cons] at shared
      obtain ⟨leftExpression, leftDerived, leftAgrees⟩ := ih shared.1
      obtain ⟨rightExpression, rightDerived, rightAgrees⟩ :=
        right.exists_derives roll shared.2.2
      have derived := Arithmetic.Derives.scaled .times leftDerived rightDerived
      refine ⟨.scaled leftExpression .times rightExpression, ?_, ?_⟩
      · rw [List.map_append, List.map_cons, Token.symbol_eq_star_iff.mpr star]
        exact derived
      · rw [Formula.folded, Formula.join_multiply]
        exact leftAgrees.times rightAgrees
  | divided _ slash right ih =>
      rw [List.forall_mem_append, List.forall_mem_cons] at shared
      obtain ⟨leftExpression, leftDerived, leftAgrees⟩ := ih shared.1
      obtain ⟨rightExpression, rightDerived, rightAgrees⟩ :=
        right.exists_derives roll shared.2.2
      have derived := Arithmetic.Derives.scaled .over leftDerived rightDerived
      refine ⟨_, ?_, leftAgrees.divided rightAgrees⟩
      rw [List.map_append, List.map_cons, Token.symbol_eq_slash_iff.mpr slash]
      exact derived
  | @rounded _ _ _ mark _ _ _ _ _ _ marks _ =>
      have unknown : mark.symbol = .unknown := by
        cases kind : mark.kind <;> simp_all [TokenKind.rounding?, Token.symbol]
      exact absurd unknown (shared mark (by simp))

private theorem SpellsSum.exists_derives (spelled : SpellsSum tokens formula)
    (shared : ∀ token ∈ tokens, token.symbol ≠ .unknown) :
    ∃ expression, Arithmetic.Derives .sum (tokens.map Token.symbol) expression ∧
      Agrees roll formula.folded expression := by
  induction spelled with
  | product spelled =>
      obtain ⟨expression, derived, agrees⟩ := spelled.exists_derives roll shared
      exact ⟨expression, .term derived, agrees⟩
  | @joined _ _ _ _ sign _ _ marks right ih =>
      rw [List.forall_mem_append, List.forall_mem_cons] at shared
      obtain ⟨leftExpression, leftDerived, leftAgrees⟩ := ih shared.1
      obtain ⟨rightExpression, rightDerived, rightAgrees⟩ :=
        right.exists_derives roll shared.2.2
      have derived := Arithmetic.Derives.joined sign leftDerived rightDerived
      refine ⟨_, ?_, leftAgrees.joined rightAgrees right.isTurnable_folded sign⟩
      rw [List.map_append, List.map_cons, Token.symbol_eq_ofSign_iff.mpr marks]
      exact derived

private theorem Spells.exists_derives (spelled : Spells tokens formula)
    (shared : ∀ token ∈ tokens, token.symbol ≠ .unknown) :
    ∃ expression, Arithmetic.Derives .sum (tokens.map Token.symbol) expression ∧
      Agrees roll formula.folded expression := by
  cases spelled with
  | plain spelled => exact spelled.exists_derives roll shared
  | @secret marker _ _ secret _ =>
      exact absurd (by rw [Token.symbol, secret]) (shared marker List.mem_cons_self)

end

/-! ## From expressions to formulas -/

def Arithmetic.Phrase.IsSpelled : Arithmetic.Phrase → List Token → Prop
  | .sum, tokens => ∃ formula, SpellsSum tokens formula
  | .product, tokens => ∃ formula, SpellsProduct tokens formula
  | .signed, tokens | .atom, tokens => ∃ formula, SpellsSigned tokens formula

private theorem SpellsSigned.exists_signed {marks tokens : List Token} {signs : List Sign}
    {formula : Formula} (spelled : SpellsSigned tokens formula)
    (symbols : marks.map Token.symbol = signs.map Arithmetic.Symbol.ofSign) :
    ∃ signed, SpellsSigned (marks ++ tokens) signed := by
  induction signs generalizing marks with
  | nil =>
      rw [List.map_nil, List.map_eq_nil_iff] at symbols
      subst symbols
      exact ⟨formula, spelled⟩
  | cons sign rest ih =>
      obtain ⟨mark, others, rfl, first, later⟩ := List.map_eq_cons_iff.mp symbols
      obtain ⟨signed, spelled⟩ := ih later
      exact spelled.sign (Token.symbol_eq_ofSign_iff.mp first)

/-- An expression in whose steps nothing goes wrong is spelled by tokens that
spell a formula too; no token opens a group. -/
theorem Arithmetic.Derives.isSpelled {phrase : Phrase} {symbols : List Symbol}
    {expression : Expression} (derived : Derives phrase symbols expression)
    (faultless : ∀ step ∈ expression.steps, step.fault? = none) {tokens : List Token}
    (same : tokens.map Token.symbol = symbols) : phrase.IsSpelled tokens := by
  induction derived generalizing tokens with
  | @literal value =>
      obtain ⟨token, rfl, symbol⟩ := List.map_eq_singleton_iff.mp same
      obtain ⟨number, denoted⟩ := Token.symbol_eq_literal_iff.mp symbol
      have sound := faultless (.literal value) List.mem_cons_self
      rw [Expression.fault?] at sound
      by_cases small : value ≤ Numeral.largest
      · have word : Numeral.ofNat? value = some (Int64.ofNat value) := if_pos small
        rw [Numeral.ofNat?_eq_some_iff, ← denoted] at word
        exact ⟨_, .term (.number ⟨number, word⟩)⟩
      · rw [if_neg small] at sound
        cases sound
  | group =>
      obtain ⟨front, last, rfl, first, later⟩ := List.map_eq_append_iff.mp same
      obtain ⟨opening, inner, rfl, opens, within⟩ := List.map_eq_cons_iff.mp first
      exact absurd opens Token.symbol_ne_opening
  | signed signs _ ih =>
      obtain ⟨marks, rest, rfl, first, later⟩ := List.map_eq_append_iff.mp same
      rw [Expression.steps, List.forall_mem_append] at faultless
      obtain ⟨formula, spelled⟩ := ih faultless.1 later
      exact spelled.exists_signed first
  | factor _ ih =>
      obtain ⟨formula, spelled⟩ := ih faultless same
      exact ⟨formula, .signed spelled⟩
  | scaled scaling _ _ leftIH rightIH =>
      obtain ⟨leftTokens, others, rfl, first, later⟩ := List.map_eq_append_iff.mp same
      obtain ⟨mark, rightTokens, rfl, symbol, last⟩ := List.map_eq_cons_iff.mp later
      rw [Expression.steps, Agrees.forall_steps_append] at faultless
      obtain ⟨left, leftSpelled⟩ := leftIH faultless.1 first
      obtain ⟨right, rightSpelled⟩ := rightIH faultless.2.1 last
      rcases scaling with _ | _
      · exact ⟨_, .times leftSpelled (Token.symbol_eq_star_iff.mp symbol) rightSpelled⟩
      · exact ⟨_, .divided leftSpelled (Token.symbol_eq_slash_iff.mp symbol) rightSpelled⟩
  | term _ ih =>
      obtain ⟨formula, spelled⟩ := ih faultless same
      exact ⟨formula, .product spelled⟩
  | joined sign _ _ leftIH rightIH =>
      obtain ⟨leftTokens, others, rfl, first, later⟩ := List.map_eq_append_iff.mp same
      obtain ⟨mark, rightTokens, rfl, symbol, last⟩ := List.map_eq_cons_iff.mp later
      rw [Expression.steps, Agrees.forall_steps_append] at faultless
      obtain ⟨left, leftSpelled⟩ := leftIH faultless.1 first
      obtain ⟨right, rightSpelled⟩ := rightIH faultless.2.1 last
      exact ⟨_, .joined leftSpelled (Token.symbol_eq_ofSign_iff.mp symbol) rightSpelled⟩

/-! ## Shared texts -/

section

variable {text : String} (shared : ∀ character ∈ text.toList, isShared character = true)

include shared

/-- A formula that a shared text spells is computed by evaluating the text. -/
theorem Spells.exists_evaluate {formula : Formula} (spelled : Spells (Token.scan text) formula)
    (roll : Int → Int → Option Int → Int) :
    ∃ expression, Agrees roll formula.folded expression ∧
      Arithmetic.evaluate text = expression.outcome := by
  obtain ⟨expression, derived, agrees⟩ :=
    spelled.exists_derives roll fun _ => symbol_ne_unknown_of_mem_scan shared
  rw [← symbols_eq_map_symbol shared] at derived
  have shallow : expression.depth ≤ Arithmetic.nestingLimit := by
    rw [agrees.flat]
    exact Nat.zero_le _
  exact ⟨expression, agrees, Arithmetic.evaluate_of_derives derived shallow⟩

theorem exists_spells_of_evaluate {word : Int64} (evaluated : Arithmetic.evaluate text = .ok word) :
    ∃ formula, Spells (Token.scan text) formula := by
  obtain ⟨expression, derived, shallow⟩ :=
    Arithmetic.exists_derives_of_evaluateLexemes evaluated
  rw [Arithmetic.evaluate_of_derives derived shallow] at evaluated
  have faultless := (Arithmetic.Expression.outcome_eq_ok_iff.mp evaluated).1
  obtain ⟨formula, spelled⟩ := derived.isSpelled faultless (symbols_eq_map_symbol shared).symm
  exact ⟨formula, .plain spelled⟩

private theorem isComparison_of_isShared :
    ∀ character ∈ text.toList, Wording.isComparison character = false := by
  intro character member
  rw [Bool.eq_false_iff]
  intro comparison
  simp only [Wording.isComparison, Bool.or_eq_true, decide_eq_true_eq] at comparison
  have shared := shared character member
  rcases comparison with (rfl | rfl) | rfl <;> exact absurd shared (by decide)

private theorem map_toUpper_of_isShared : text.map Char.toUpper = text := by
  have fixed : text.toList.map Char.toUpper = text.toList.map id := by
    refine List.map_congr_left fun character member => ?_
    rcases (isShared_iff character).mp (shared character member) with digit | mark | separator
    · have writable : Formula.IsWritable [character] := by simp [Formula.IsWritable, digit]
      exact writable.toUpper_eq List.mem_cons_self
    · simp only [sharedMarks, List.mem_cons, List.not_mem_nil, or_false] at mark
      rcases mark with rfl | rfl | rfl | rfl <;> rfl
    · simp only [isSeparator, Bool.or_eq_true, decide_eq_true_eq] at separator
      rcases separator with ((((rfl | rfl) | rfl) | rfl) | rfl) | rfl <;> rfl
  apply String.toList_injective
  rw [String.toList_map, fixed, List.map_id]

/-- A shared text is the formula of a roll without a check. -/
private theorem Reader.wording_of_isShared (reader : Reader) :
    reader.wording text = ⟨text, "", ""⟩ := by
  have divided := Wording.ofInput_of_formula (isComparison_of_isShared shared)
  rw [wording, divided, Wording.folding, Wording.folded, map_toUpper_of_isShared shared, ite_self]

/-- Reading a shared text comes to reading its tokens as a formula. -/
theorem Reader.read_of_isShared (reader : Reader) :
    (reader.read text).roll.formula = (Reading.ofTokens (Token.scan text)).formula ∧
      (reader.read text).diagnostics =
        (Reading.ofTokens (Token.scan text)).diagnostics (Token.scan text) := by
  have worded := reader.wording_of_isShared shared
  have tokens : reader.tokens text = Token.scan text := by rw [Reader.tokens, worded]
  have unchecked (position : Nat) :
      reader.interpretation.checkDiagnostics ⟨text, "", ""⟩ position = [] := rfl
  rw [read_eq, worded, unchecked, List.append_nil, reading, tokens]
  exact ⟨rfl, rfl⟩

/-- A shared text without diagnostics spells an expression that agrees with the
formula that is read. -/
theorem Reader.exists_agrees_of_read (reader : Reader)
    (clean : (reader.read text).diagnostics = []) (roll : Int → Int → Option Int → Int) :
    ∃ expression, Agrees roll (reader.read text).roll.formula expression ∧
      Arithmetic.evaluate text = expression.outcome := by
  obtain ⟨formula, diagnostics⟩ := reader.read_of_isShared shared
  rw [diagnostics, ← Reading.exists_spells_iff] at clean
  obtain ⟨unfolded, spelled⟩ := clean
  rw [formula, Reading.ofTokens_of_spells spelled]
  exact spelled.exists_evaluate shared roll

private theorem Reader.diagnostics_of_evaluate (reader : Reader) {word : Int64}
    (evaluated : Arithmetic.evaluate text = .ok word) : (reader.read text).diagnostics = [] := by
  rw [(reader.read_of_isShared shared).2, ← Reading.exists_spells_iff]
  exact exists_spells_of_evaluate shared evaluated

end

/-- Evaluating a shared text succeeds exactly when it is read without
diagnostics as a formula that can be computed on words, and the value is that
of the formula. It never fails for the form of a text that is so read. -/
theorem Reader.evaluate_iff_read (reader : Reader) (roll : Int → Int → Option Int → Int)
    {text : String} (shared : ∀ character ∈ text.toList, isShared character = true) :
    (∀ word, Arithmetic.evaluate text = .ok word ↔
      (reader.read text).diagnostics = [] ∧
        (reader.read text).roll.formula.IsBounded (.floored roll) ∧
        word.toInt = (reader.read text).roll.formula.value (.floored roll)) ∧
    ((reader.read text).diagnostics = [] →
      ∀ fault, Arithmetic.evaluate text = .error fault →
        fault = .overflow ∨ fault = .divisionByZero) := by
  constructor
  · intro word
    constructor
    · intro evaluated
      have clean := reader.diagnostics_of_evaluate shared evaluated
      obtain ⟨expression, agrees, outcome⟩ := reader.exists_agrees_of_read shared clean roll
      rw [outcome, Arithmetic.Expression.outcome_eq_ok_iff] at evaluated
      obtain ⟨faultless, value⟩ := evaluated
      exact ⟨clean, agrees.faultless.mp faultless, value.trans agrees.value⟩
    · rintro ⟨clean, bounded, value⟩
      obtain ⟨expression, agrees, outcome⟩ := reader.exists_agrees_of_read shared clean roll
      rw [outcome, Arithmetic.Expression.outcome_eq_ok_iff]
      exact ⟨agrees.faultless.mpr bounded, value.trans agrees.value.symm⟩
  · intro clean fault failed
    obtain ⟨expression, _, outcome⟩ := reader.exists_agrees_of_read shared clean roll
    rw [outcome] at failed
    exact Arithmetic.Expression.eq_of_outcome failed

theorem Reader.evaluate_iff_read_signed :
    (∀ character ∈ "7/-2 - -3*4".toList, isShared character = true) ∧
      Arithmetic.evaluate "7/-2 - -3*4" = .ok 8 ∧
      ((standard .standard).read "7/-2 - -3*4").diagnostics = [] ∧
      ((standard .standard).read "7/-2 - -3*4").roll.formula.value
        (.floored fun _ _ _ => 0) = 8 := by
  have shared : ∀ character ∈ "7/-2 - -3*4".toList, isShared character = true :=
    List.all_eq_true.mp (by decide +kernel)
  have evaluated : Arithmetic.evaluate "7/-2 - -3*4" = .ok 8 := rfl
  have read := ((evaluate_iff_read (standard .standard) (fun _ _ _ => 0) shared).1 8).mp evaluated
  exact ⟨shared, evaluated, read.1, read.2.2.symm⟩

end DiceLanguage
