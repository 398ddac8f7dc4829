import DiceLanguage.Proofs.Arithmetic.Expression

/-!
# Evaluating expressions

Lexemes that spell an expression are evaluated to its outcome, whatever waits
for it, as long as its groups fit in below those that are open around it.
-/

set_option autoImplicit false

namespace DiceLanguage.Arithmetic

/-! ## Signs -/

theorem negates_plus (signs : List Sign) : negates (.plus :: signs) = negates signs := by
  simp [negates]

theorem negates_minus (signs : List Sign) : negates (.minus :: signs) = !negates signs := by
  simp only [negates, List.count_cons_self]
  rcases Nat.mod_two_eq_zero_or_one (signs.count .minus) with even | odd
  · simp [even, Nat.add_mod]
  · simp [odd, Nat.add_mod]

/-- Only whether signs negate matters to what is pending. -/
private theorem foldl_signed {α : Type} (signs : List Sign) (pending : Pending α) :
    signs.foldl Pending.signed pending =
      { pending with negated := pending.negated ^^ negates signs } := by
  induction signs generalizing pending with
  | nil => simp [negates]
  | cons sign rest ih =>
      rw [List.foldl_cons, ih]
      cases sign with
      | plus => rw [negates_plus, Pending.signed]
      | minus => simp [negates_minus, Pending.signed]

private theorem takeOperand_ofSign {sign : Sign} {lexeme : Lexeme}
    (symbol : lexeme.symbol = .ofSign sign)
    (pending : Pending Int64) (around : List (Pending Int64)) :
    Stage.takeOperand pending around lexeme = .ok (.awaiting (pending.signed sign) around) := by
  cases sign with
  | plus => rw [Stage.takeOperand, symbol]; rfl
  | minus => rw [Stage.takeOperand, symbol]; rfl

private theorem foldlM_take_signs {marks : List Lexeme} {signs : List Sign}
    (symbols : marks.map Lexeme.symbol = signs.map Symbol.ofSign) (pending : Pending Int64)
    (around : List (Pending Int64)) :
    marks.foldlM Stage.take (.awaiting pending around) =
      .ok (.awaiting (signs.foldl Pending.signed pending) around) := by
  induction signs generalizing marks pending with
  | nil =>
      rw [List.map_nil, List.map_eq_nil_iff] at symbols
      subst symbols
      rfl
  | cons sign rest ih =>
      obtain ⟨mark, others, rfl, first, later⟩ := List.map_eq_cons_iff.mp symbols
      rw [List.foldlM_cons, Stage.take, takeOperand_ofSign first]
      exact ih later (pending.signed sign)

/-! ## Phrases -/

/-- Some lexemes are evaluated to the outcome of an expression wherever a
phrase of some kind may stand. A sum is only totalled by what comes next. -/
def Evaluates (lexemes : List Lexeme) (expression : Expression) : Phrase → Prop
  | .atom => ∀ pending around, around.length + expression.depth ≤ nestingLimit →
      lexemes.foldlM Stage.take (.awaiting pending around) =
        expression.outcome >>= Stage.complete pending around
  | .signed => ∀ sum factor around, around.length + expression.depth ≤ nestingLimit →
      lexemes.foldlM Stage.take (.awaiting ⟨sum, factor, false⟩ around) =
        expression.outcome >>= Stage.complete ⟨sum, factor, false⟩ around
  | .product => ∀ sum around, around.length + expression.depth ≤ nestingLimit →
      lexemes.foldlM Stage.take (.awaiting ⟨sum, none, false⟩ around) =
        expression.outcome >>= fun value => pure (.holding sum value around)
  | .sum => ∀ around, around.length + expression.depth ≤ nestingLimit →
      ∀ {α : Type} (next : Stage → Except Fault α) (goOn : Int64 → Except Fault α),
        (∀ sum value, next (.holding sum value around) = total sum value >>= goOn) →
        (lexemes.foldlM Stage.take (.awaiting .nothing around) >>= next) =
          expression.outcome >>= goOn

private theorem complete_signed (sum : Option (Int64 × Sign)) (factor : Option (Int64 × Scaling))
    (signs : List Sign) (around : List (Pending Int64)) :
    Stage.complete (signs.foldl Pending.signed ⟨sum, factor, false⟩) around =
      fun operand => (if negates signs then negate operand else .ok operand) >>=
        Stage.complete ⟨sum, factor, false⟩ around := by
  funext operand
  rw [foldl_signed, Bool.false_xor, Stage.complete, signed]
  rfl

private theorem take_literal {lexeme : Lexeme} {value : Nat}
    (symbol : lexeme.symbol = .literal value)
    (pending : Pending Int64) (around : List (Pending Int64)) :
    Stage.take (.awaiting pending around) lexeme =
      (Expression.literal value).outcome >>= Stage.complete pending around := by
  rw [Stage.take, Stage.takeOperand, symbol, Expression.outcome_literal]
  dsimp only
  cases Text.Numeral.ofNat? value <;> rfl

private theorem take_opening {lexeme : Lexeme} (symbol : lexeme.symbol = .opening)
    (pending : Pending Int64) {around : List (Pending Int64)}
    (room : around.length < nestingLimit) :
    Stage.take (.awaiting pending around) lexeme =
      .ok (.awaiting .nothing (pending :: around)) := by
  rw [Stage.take, Stage.takeOperand, symbol]
  exact if_neg (Nat.ne_of_lt room)

private theorem take_closing {lexeme : Lexeme} (symbol : lexeme.symbol = .closing)
    (sum : Option (Int64 × Sign)) (value : Int64) (pending : Pending Int64)
    (around : List (Pending Int64)) :
    Stage.take (.holding sum value (pending :: around)) lexeme =
      total sum value >>= Stage.complete pending around := by
  rw [Stage.take, Stage.takeOperator, symbol]

private theorem take_ofScaling {scaling : Scaling} {lexeme : Lexeme}
    (symbol : lexeme.symbol = .ofScaling scaling) (sum : Option (Int64 × Sign)) (value : Int64)
    (around : List (Pending Int64)) :
    Stage.take (.holding sum value around) lexeme =
      .ok (.awaiting (.ofTerm sum value scaling) around) := by
  cases scaling with
  | times => rw [Stage.take, Stage.takeOperator, symbol]; rfl
  | _ => rw [Stage.take, Stage.takeOperator, symbol]; rfl

private theorem take_ofSign {sign : Sign} {lexeme : Lexeme} (symbol : lexeme.symbol = .ofSign sign)
    (sum : Option (Int64 × Sign)) (value : Int64) (around : List (Pending Int64)) :
    Stage.take (.holding sum value around) lexeme =
      total sum value >>= fun result => pure (.awaiting (.ofSum result sign) around) := by
  cases sign with
  | plus => rw [Stage.take, Stage.takeOperator, symbol]; rfl
  | minus => rw [Stage.take, Stage.takeOperator, symbol]; rfl

section

variable {lexemes rest : List Lexeme} {lexeme : Lexeme} {expression operand left right : Expression}

private theorem evaluates_literal {value : Nat} (symbol : lexeme.symbol = .literal value) :
    Evaluates [lexeme] (.literal value) .atom := by
  intro pending around _
  rw [List.foldlM_cons, take_literal symbol]
  exact bind_pure _

private theorem evaluates_group {opening closing : Lexeme} (opens : opening.symbol = .opening)
    (closes : closing.symbol = .closing) (inner : Evaluates lexemes expression .sum) :
    Evaluates (opening :: lexemes ++ [closing]) (.group expression) .atom := by
  intro pending around fits
  rw [Expression.depth] at fits
  rw [List.cons_append, List.foldlM_cons, take_opening opens pending (by omega),
    Expression.outcome_group]
  change (lexemes ++ [closing]).foldlM Stage.take _ = _
  rw [List.foldlM_append]
  -- The group spends one level of nesting, and the closing parenthesis totals its sum.
  refine inner (pending :: around) (by rw [List.length_cons]; omega) _ _ fun sum value => ?_
  rw [List.foldlM_cons, take_closing closes]
  exact bind_pure _

private theorem evaluates_signed {marks : List Lexeme} {signs : List Sign}
    (symbols : marks.map Lexeme.symbol = signs.map Symbol.ofSign)
    (atom : Evaluates rest operand .atom) :
    Evaluates (marks ++ rest) (.signed signs operand) .signed := by
  intro sum factor around fits
  rw [List.foldlM_append, foldlM_take_signs symbols, Expression.outcome_signed, bind_assoc,
    ← complete_signed]
  exact atom _ around fits

private theorem evaluates_factor (signed : Evaluates lexemes expression .signed) :
    Evaluates lexemes expression .product := by
  intro sum around fits
  exact signed sum none around fits

private theorem evaluates_scaled {scaling : Scaling} (symbol : lexeme.symbol = .ofScaling scaling)
    (leftProduct : Evaluates lexemes left .product) (rightSigned : Evaluates rest right .signed) :
    Evaluates (lexemes ++ lexeme :: rest) (.scaled left scaling right) .product := by
  intro sum around fits
  rw [Expression.depth] at fits
  rw [List.foldlM_append, leftProduct sum around (by omega), Expression.outcome_scaled sum,
    bind_assoc, bind_assoc]
  refine bind_congr fun first => ?_
  rw [pure_bind, List.foldlM_cons, take_ofScaling symbol]
  change rest.foldlM Stage.take (.awaiting ⟨sum, some (first, scaling), false⟩ around) = _
  rw [rightSigned sum (some (first, scaling)) around (by omega), bind_assoc]
  rfl

private theorem evaluates_term (product : Evaluates lexemes expression .product) :
    Evaluates lexemes expression .sum := by
  intro around fits α next goOn settles
  change (lexemes.foldlM Stage.take (.awaiting ⟨none, none, false⟩ around) >>= next) = _
  rw [product none around fits, bind_assoc]
  refine bind_congr fun value => ?_
  rw [pure_bind, settles]
  rfl

private theorem evaluates_joined {sign : Sign} (symbol : lexeme.symbol = .ofSign sign)
    (leftSum : Evaluates lexemes left .sum) (rightProduct : Evaluates rest right .product) :
    Evaluates (lexemes ++ lexeme :: rest) (.joined left sign right) .sum := by
  intro around fits α next goOn settles
  rw [Expression.depth] at fits
  rw [List.foldlM_append, bind_assoc, Expression.outcome_joined, bind_assoc]
  refine leftSum around (by omega) _ _ fun sum value => ?_
  rw [List.foldlM_cons, take_ofSign symbol, bind_assoc, bind_assoc]
  refine bind_congr fun result => ?_
  rw [pure_bind]
  change (rest.foldlM Stage.take (.awaiting ⟨some (result, sign), none, false⟩ around) >>= next) = _
  rw [rightProduct (some (result, sign)) around (by omega), bind_assoc, bind_assoc]
  refine bind_congr fun second => ?_
  rw [pure_bind, settles]

end

theorem Derives.evaluates {phrase : Phrase} {symbols : List Symbol} {expression : Expression}
    (derived : Derives phrase symbols expression) {lexemes : List Lexeme}
    (spelled : lexemes.map Lexeme.symbol = symbols) : Evaluates lexemes expression phrase := by
  -- A derivation divides the symbols only; the lexemes are divided after it in each case.
  induction derived generalizing lexemes with
  | literal =>
      obtain ⟨lexeme, rfl, symbol⟩ := List.map_eq_singleton_iff.mp spelled
      exact evaluates_literal symbol
  | group _ ih =>
      obtain ⟨front, last, rfl, first, later⟩ := List.map_eq_append_iff.mp spelled
      obtain ⟨opening, inner, rfl, opens, within⟩ := List.map_eq_cons_iff.mp first
      obtain ⟨closing, rfl, closes⟩ := List.map_eq_singleton_iff.mp later
      exact evaluates_group opens closes (ih within)
  | signed signs _ ih =>
      obtain ⟨marks, rest, rfl, first, later⟩ := List.map_eq_append_iff.mp spelled
      exact evaluates_signed first (ih later)
  | factor _ ih => exact evaluates_factor (ih spelled)
  | scaled scaling _ _ leftIH rightIH =>
      obtain ⟨leftLexemes, others, rfl, first, later⟩ := List.map_eq_append_iff.mp spelled
      obtain ⟨mark, rightLexemes, rfl, symbol, last⟩ := List.map_eq_cons_iff.mp later
      exact evaluates_scaled symbol (leftIH first) (rightIH last)
  | term _ ih => exact evaluates_term (ih spelled)
  | joined sign _ _ leftIH rightIH =>
      obtain ⟨leftLexemes, others, rfl, first, later⟩ := List.map_eq_append_iff.mp spelled
      obtain ⟨mark, rightLexemes, rfl, symbol, last⟩ := List.map_eq_cons_iff.mp later
      exact evaluates_joined symbol (leftIH first) (rightIH last)

/-- Lexemes that spell an expression, not nested too deeply, have its outcome. -/
theorem evaluateLexemes_of_derives {lexemes : List Lexeme} {expression : Expression}
    (derived : Derives .sum (lexemes.map Lexeme.symbol) expression)
    (shallow : expression.depth ≤ nestingLimit) :
    evaluateLexemes lexemes = expression.outcome := by
  have settled : (lexemes.foldlM Stage.take Stage.initial >>= Stage.finish) =
      expression.outcome >>= pure := by
    refine derived.evaluates rfl [] (by rw [List.length_nil]; omega) _ _ fun sum value => ?_
    rfl
  rw [bind_pure] at settled
  exact settled

end DiceLanguage.Arithmetic
