import DiceLanguage.Formula.Assembly
import DiceLanguage.Proofs.Formula.Settled
import DiceLanguage.Proofs.Formula.WordValue
import Mathlib.Data.List.Forall2

/-!
# Assemblies with and without folding

The same calls put formulas together with the constructors that fold signs and
with plain nodes. Both ways the same calls succeed, and each formula that is
folded stands for its plain one, with nothing left to fold. Main statement:
`Assembly.run?_simplifies`.
-/

set_option autoImplicit false

namespace DiceLanguage

/-- A call of a constructor on the latest formulas of a stack, or a move of them. -/
inductive Call where
  | literal (value : Int64)
  | negate
  | join (operator : Operator)
  | quotient (rounding : Option Rounding)
  | dice
  | criticalDice
  | duplicate
  | exchange
  | discard
  deriving DecidableEq

namespace Call

def folding : Call → Assembly
  | .literal value => .push (.number value)
  | .negate => .negate
  | .join operator => .join operator
  | .quotient rounding => .quotient rounding
  | .dice => .dice
  | .criticalDice => .criticalDice
  | .duplicate => .duplicate
  | .exchange => .exchange
  | .discard => .discard

def plain : Call → Assembly
  | .negate => .plainNegation
  | .join operator => .plainBinary operator
  | call => call.folding

/-- A call with folding does to folded formulas what a plain one does to those
that they were folded from. -/
theorem step?_folding (call : Call) (stack : List Formula) :
    call.folding.step? (stack.map Formula.folded) =
      (call.plain.step? stack).map (List.map Formula.folded) := by
  cases call with
  | literal value => rfl
  | negate => cases stack <;> rfl
  | join operator =>
      rcases stack with _ | ⟨right, _ | ⟨left, stack⟩⟩ <;> rfl
  | quotient rounding =>
      rcases stack with _ | ⟨divisor, _ | ⟨dividend, stack⟩⟩ <;> rfl
  | dice =>
      rcases stack with _ | ⟨sides, _ | ⟨times, stack⟩⟩ <;> rfl
  | criticalDice =>
      rcases stack with _ | ⟨critical, _ | ⟨sides, _ | ⟨times, stack⟩⟩⟩ <;> rfl
  | duplicate => cases stack <;> rfl
  | exchange =>
      rcases stack with _ | ⟨top, _ | ⟨second, stack⟩⟩ <;> rfl
  | discard => cases stack <;> rfl

end Call

namespace Assembly

def run? (steps : List Assembly) (stack : List Formula) : Option (List Formula) :=
  steps.foldlM (fun stack step => step.step? stack) stack

@[simp] theorem run?_nil (stack : List Formula) : run? [] stack = some stack := rfl

@[simp] theorem run?_cons (step : Assembly) (steps : List Assembly) (stack : List Formula) :
    run? (step :: steps) stack = (step.step? stack).bind (run? steps) := rfl

@[simp] theorem run?_append (first second : List Assembly) (stack : List Formula) :
    run? (first ++ second) stack = (run? first stack).bind (run? second) :=
  List.foldlM_append

theorem run?_folding (calls : List Call) (stack : List Formula) :
    run? (calls.map Call.folding) (stack.map Formula.folded) =
      (run? (calls.map Call.plain) stack).map (List.map Formula.folded) := by
  induction calls generalizing stack with
  | nil => rfl
  | cons call calls ih =>
      rw [List.map_cons, List.map_cons, run?_cons, run?_cons, call.step?_folding]
      cases call.plain.step? stack with
      | none => rfl
      | some next => exact ih next

end Assembly

/-! ## Calls for every formula -/

def Formula.calls : Formula → List Call
  | .number value => [.literal value]
  | .binary left operator right => left.calls ++ right.calls ++ [.join operator]
  | .quotient dividend divisor rounding =>
      dividend.calls ++ divisor.calls ++ [.quotient rounding]
  | .negation operand => operand.calls ++ [.negate]
  | .dice times sides => times.calls ++ sides.calls ++ [.dice]
  | .criticalDice times sides critical =>
      times.calls ++ sides.calls ++ critical.calls ++ [.criticalDice]

theorem Assembly.run?_calls (formula : Formula) (stack : List Formula) :
    run? (formula.calls.map Call.plain) stack = some (formula :: stack) := by
  induction formula generalizing stack with
  | number value => rfl
  | binary left operator right leftRun rightRun =>
      simp [Formula.calls, leftRun, rightRun, Call.plain, step?]
  | quotient dividend divisor rounding dividendRun divisorRun =>
      simp [Formula.calls, dividendRun, divisorRun, Call.plain, Call.folding, step?]
  | negation operand operandRun =>
      simp [Formula.calls, operandRun, Call.plain, step?]
  | dice times sides timesRun sidesRun =>
      simp [Formula.calls, timesRun, sidesRun, Call.plain, Call.folding, step?]
  | criticalDice times sides critical timesRun sidesRun criticalRun =>
      simp [Formula.calls, timesRun, sidesRun, criticalRun, Call.plain, Call.folding, step?]

/-! ## Sound folding -/

/-- A formula stands for a raw one, and none of its signs is left to fold. -/
structure Formula.Simplifies (raw folded : Formula) : Prop where
  wordValue : ∀ valuation, folded.wordValue valuation = raw.wordValue valuation
  negated : ∀ operand, .negation operand ∈ folded.subformulas →
    (∀ value, operand ≠ .number value) ∧ ∀ inner, operand ≠ .negation inner
  joined : ∀ left operator value, .binary left operator (.number value) ∈ folded.subformulas →
    operator = .add ∨ operator = .subtract → value < 0 → value = Int64.minValue
  negate_negate : folded.negate.negate = folded

private theorem Formula.simplifies_folded (raw : Formula) : raw.Simplifies raw.folded where
  wordValue valuation := raw.wordValue_folded valuation
  negated operand member := by
    cases raw.isSettled_folded.of_mem member with
    | negation _ notNumber notNegation => exact ⟨notNumber, notNegation⟩
  joined left operator value member additive negative := by
    cases raw.isSettled_folded.of_mem member with
    | binary _ _ joined =>
        refine joined value rfl ?_ negative
        rcases additive with rfl | rfl <;> rfl
  negate_negate := raw.isSettled_folded.negate_negate

private theorem Assembly.rel_run? (calls : List Call) :
    Option.Rel (List.Forall₂ Formula.Simplifies) (run? (calls.map Call.plain) [])
      (run? (calls.map Call.folding) []) := by
  have folds := run?_folding calls []
  rw [List.map_nil] at folds
  rw [folds]
  cases run? (calls.map Call.plain) [] with
  | none => exact .none
  | some stack =>
      refine .some (List.forall₂_map_right_iff.mpr (List.forall₂_same.mpr ?_))
      exact fun raw _ => raw.simplifies_folded

/-- Calls with folding fail only where plain ones do, and otherwise leave
formulas that stand for the plain ones. Any formula is what some plain calls
leave. -/
theorem Assembly.run?_simplifies :
    (∀ calls : List Call, Option.Rel (List.Forall₂ Formula.Simplifies)
      (run? (calls.map Call.plain) []) (run? (calls.map Call.folding) [])) ∧
    ∀ formula : Formula, run? (formula.calls.map Call.plain) [] = some [formula] :=
  ⟨rel_run?, fun formula => run?_calls formula []⟩

end DiceLanguage
