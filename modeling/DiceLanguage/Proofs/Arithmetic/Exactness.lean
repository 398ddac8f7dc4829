import DiceLanguage.Proofs.Arithmetic.Beginnings
import DiceLanguage.Proofs.Arithmetic.Evaluating
import DiceLanguage.Proofs.Arithmetic.LongestMatch

/-!
# Exactness of arithmetic

An arithmetic text has a value exactly when the lexemes of longest match are an
expression, its groups are not nested too deeply and no step of it goes wrong;
the value is the exact one. Otherwise an expression fails by the first step
that goes wrong.
-/

set_option autoImplicit false

namespace DiceLanguage.Arithmetic

def symbols (text : String) : List Symbol := (Lexeme.scan text).map Lexeme.symbol

variable {text : String} {expression : Expression}

theorem evaluate_of_derives (derived : Derives .sum (symbols text) expression)
    (shallow : expression.depth ≤ nestingLimit) : evaluate text = expression.outcome :=
  evaluateLexemes_of_derives derived shallow

theorem Expression.findSome?_fault?_eq_none_iff :
    expression.steps.findSome? fault? = none ↔ ∀ step ∈ expression.steps, step.fault? = none :=
  List.findSome?_eq_none_iff

theorem Expression.outcome_eq_ok_iff {word : Int64} :
    expression.outcome = .ok word ↔
      (∀ step ∈ expression.steps, step.fault? = none) ∧ word.toInt = expression.value := by
  rw [← findSome?_fault?_eq_none_iff]
  cases found : expression.steps.findSome? fault? with
  | some fault => simp [outcome_of_fault found]
  | none =>
      have exactly := toInt_ofInt_value found
      rw [outcome_of_faultless found, Except.ok.injEq, ← Int64.toInt_inj, exactly]
      simp [eq_comm]

private theorem Expression.eq_of_fault? {step : Expression} {fault : Fault}
    (faulty : step.fault? = some fault) : fault = .overflow ∨ fault = .divisionByZero := by
  have overflows {value : Int} (faulty : overflow? value = some fault) : fault = .overflow := by
    unfold overflow? at faulty
    split at faulty <;> cases faulty
    rfl
  unfold fault? at faulty
  split at faulty
  next =>
    split at faulty <;> cases faulty
    exact .inl rfl
  next => cases faulty
  next =>
    split at faulty
    next => exact .inl (overflows faulty)
    next => cases faulty
  next => exact .inl (overflows faulty)
  next => exact .inl (overflows faulty)
  next => exact .inl (overflows faulty)
  next =>
    split at faulty
    next =>
      cases faulty
      exact .inr rfl
    next => exact .inl (overflows faulty)

theorem Expression.eq_of_outcome {fault : Fault} (failed : expression.outcome = .error fault) :
    fault = .overflow ∨ fault = .divisionByZero := by
  cases found : expression.steps.findSome? fault? with
  | none =>
      rw [outcome_of_faultless found] at failed
      cases failed
  | some first =>
      rw [outcome_of_fault found] at failed
      cases failed
      obtain ⟨step, _, faulty⟩ := List.exists_of_findSome?_eq_some found
      exact eq_of_fault? faulty

/-- Evaluation is exact: it succeeds with the exact value of an expression
none of whose steps goes wrong, and fails by the first one that does. The
symbols of the expression are those of longest match. -/
theorem evaluate_exact (text : String) :
    (∀ lexemes, Lexeme.rules.Lexes 0 text.toList lexemes ↔ lexemes = Lexeme.scan text) ∧
    (∀ word, evaluate text = .ok word ↔
      ∃ expression, Derives .sum (symbols text) expression ∧
        expression.depth ≤ nestingLimit ∧
        (∀ step ∈ expression.steps, step.fault? = none) ∧
        word.toInt = expression.value) ∧
    ∀ expression, Derives .sum (symbols text) expression → expression.depth ≤ nestingLimit →
      (∃ step ∈ expression.steps, step.fault? ≠ none) →
      ∃ before step after fault,
        expression.steps = before ++ step :: after ∧
        (∀ earlier ∈ before, earlier.fault? = none) ∧
        step.fault? = some fault ∧
        (fault = .overflow ∨ fault = .divisionByZero) ∧
        evaluate text = .error fault := by
  refine ⟨fun lexemes => Lexeme.lexes_iff, ?_, ?_⟩
  · intro word
    constructor
    · intro evaluated
      obtain ⟨expression, derived, shallow⟩ := exists_derives_of_evaluateLexemes evaluated
      rw [evaluate_of_derives derived shallow] at evaluated
      obtain ⟨faultless, exactly⟩ := Expression.outcome_eq_ok_iff.mp evaluated
      exact ⟨expression, derived, shallow, faultless, exactly⟩
    · rintro ⟨expression, derived, shallow, faultless, exactly⟩
      rw [evaluate_of_derives derived shallow]
      exact Expression.outcome_eq_ok_iff.mpr ⟨faultless, exactly⟩
  · intro expression derived shallow ⟨faulty, member, wrong⟩
    cases found : expression.steps.findSome? Expression.fault? with
    | none => exact absurd (Expression.findSome?_fault?_eq_none_iff.mp found faulty member) wrong
    | some fault =>
        obtain ⟨before, step, after, split, first, earlier⟩ := List.findSome?_eq_some_iff.mp found
        refine ⟨before, step, after, fault, split, earlier, first, ?_, ?_⟩
        · exact Expression.eq_of_fault? first
        · rw [evaluate_of_derives derived shallow, Expression.outcome_of_fault found]

end DiceLanguage.Arithmetic
