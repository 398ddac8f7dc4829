import DiceLanguage.Arithmetic.Evaluation
import DiceLanguage.Proofs.Arithmetic.Checked

/-!
# Arithmetic expressions

    Sum     := Product ((+ | -) Product)*
    Product := Signed ((* | /) Signed)*
    Signed  := (+ | -)* Atom
    Atom    := Literal | "(" Sum ")"

The expression that symbols spell keeps every sign and every group. Its value
is an exact integer, with quotients rounded down. What goes wrong in a step is
said of the exact values of the operands.
-/

set_option autoImplicit false

namespace DiceLanguage.Arithmetic

open Text

inductive Expression where
  | literal (value : Nat)
  | group (inner : Expression)
  | signed (signs : List Sign) (operand : Expression)
  | joined (left : Expression) (sign : Sign) (right : Expression)
  | scaled (left : Expression) (scaling : Scaling) (right : Expression)

def Symbol.ofSign : Sign → Symbol
  | .plus => .plus
  | .minus => .minus

def Symbol.ofScaling : Scaling → Symbol
  | .times => .star
  | .over => .slash

inductive Phrase where
  | sum
  | product
  | signed
  | atom

inductive Derives : Phrase → List Symbol → Expression → Prop where
  | literal {value} : Derives .atom [.literal value] (.literal value)
  | group {symbols inner} :
      Derives .sum symbols inner → Derives .atom (.opening :: symbols ++ [.closing]) (.group inner)
  | signed {symbols operand} (signs : List Sign) :
      Derives .atom symbols operand →
      Derives .signed (signs.map Symbol.ofSign ++ symbols) (.signed signs operand)
  | factor {symbols expression} :
      Derives .signed symbols expression → Derives .product symbols expression
  | scaled {leftSymbols rightSymbols left right} (scaling : Scaling) :
      Derives .product leftSymbols left → Derives .signed rightSymbols right →
      Derives .product (leftSymbols ++ .ofScaling scaling :: rightSymbols)
        (.scaled left scaling right)
  | term {symbols expression} :
      Derives .product symbols expression → Derives .sum symbols expression
  | joined {leftSymbols rightSymbols left right} (sign : Sign) :
      Derives .sum leftSymbols left → Derives .product rightSymbols right →
      Derives .sum (leftSymbols ++ .ofSign sign :: rightSymbols) (.joined left sign right)

def negates (signs : List Sign) : Bool := signs.count .minus % 2 = 1

namespace Expression

def depth : Expression → Nat
  | .literal _ => 0
  | .group inner => inner.depth + 1
  | .signed _ operand => operand.depth
  | .joined left _ right | .scaled left _ right => max left.depth right.depth

def value : Expression → Int
  | .literal value => value
  | .group inner => inner.value
  | .signed signs operand => if negates signs then -operand.value else operand.value
  | .joined left .plus right => left.value + right.value
  | .joined left .minus right => left.value - right.value
  | .scaled left .times right => left.value * right.value
  | .scaled dividend .over divisor => dividend.value.fdiv divisor.value

/-- The subexpressions in the order of evaluation, operands before operators
and left before right. -/
def steps : Expression → List Expression
  | .literal value => [.literal value]
  | .group inner => inner.steps ++ [.group inner]
  | .signed signs operand => operand.steps ++ [.signed signs operand]
  | .joined left sign right => left.steps ++ right.steps ++ [.joined left sign right]
  | .scaled left scaling right => left.steps ++ right.steps ++ [.scaled left scaling right]

def overflow? (value : Int) : Option Fault :=
  if IsWord value then none else some .overflow

/-- What goes wrong when an expression is put together from the exact values
of its parts. -/
def fault? : Expression → Option Fault
  | .literal value => if value ≤ Numeral.largest then none else some .overflow
  | .group _ => none
  | .signed signs operand => if negates signs then overflow? (-operand.value) else none
  | .joined left .plus right => overflow? (left.value + right.value)
  | .joined left .minus right => overflow? (left.value - right.value)
  | .scaled left .times right => overflow? (left.value * right.value)
  | .scaled dividend .over divisor =>
      if divisor.value = 0 then some .divisionByZero
      else overflow? (dividend.value.fdiv divisor.value)

def concluded (value : Int) : Option Fault → Except Fault Int64
  | some fault => .error fault
  | none => .ok (Int64.ofInt value)

/-- The fault of the first step that has one, or else the word of the value. -/
def outcome (expression : Expression) : Except Fault Int64 :=
  concluded expression.value (expression.steps.findSome? fault?)

private theorem isWord_of_le_largest {value : Nat} (small : value ≤ Numeral.largest) :
    IsWord value := by
  unfold Numeral.largest at small
  unfold IsWord
  rw [Int64.toInt_minValue, Int64.toInt_maxValue]
  omega

/-- The first fault of some steps decides over what is done with the last one. -/
private theorem findSome?_append_last (before : List Expression) (last : Expression) :
    (before ++ [last]).findSome? fault? = (before.findSome? fault?).or last.fault? := by
  rw [List.findSome?_append, List.findSome?_singleton]

theorem overflow?_eq_none_iff {value : Int} : overflow? value = none ↔ IsWord value := by
  unfold overflow?
  split <;> simp [*]

theorem isWord_value_of_faultless {expression : Expression}
    (faultless : expression.steps.findSome? fault? = none) : IsWord expression.value := by
  induction expression with
  | literal value =>
      simp only [steps, List.findSome?_singleton, fault?] at faultless
      split at faultless
      next small => exact isWord_of_le_largest small
      next => cases faultless
  | group inner ih =>
      rw [steps, findSome?_append_last, Option.or_eq_none_iff] at faultless
      exact ih faultless.1
  | signed signs operand ih =>
      rw [steps, findSome?_append_last, Option.or_eq_none_iff] at faultless
      obtain ⟨before, last⟩ := faultless
      simp only [fault?] at last
      simp only [value]
      split at last
      next negated =>
        rw [if_pos negated]
        exact overflow?_eq_none_iff.mp last
      next unnegated =>
        rw [if_neg unnegated]
        exact ih before
  | joined left sign right =>
      rw [steps, findSome?_append_last, Option.or_eq_none_iff] at faultless
      cases sign with
      | plus => exact overflow?_eq_none_iff.mp faultless.2
      | minus => exact overflow?_eq_none_iff.mp faultless.2
  | scaled left scaling right =>
      rw [steps, findSome?_append_last, Option.or_eq_none_iff] at faultless
      obtain ⟨_, last⟩ := faultless
      cases scaling with
      | times => exact overflow?_eq_none_iff.mp last
      | _ =>
          simp only [fault?] at last
          split at last
          next => cases last
          next => exact overflow?_eq_none_iff.mp last

variable {expression : Expression}

theorem outcome_of_faultless (faultless : expression.steps.findSome? fault? = none) :
    expression.outcome = .ok (Int64.ofInt expression.value) := by
  rw [outcome, faultless, concluded]

theorem outcome_of_fault {fault : Fault}
    (faulty : expression.steps.findSome? fault? = some fault) :
    expression.outcome = .error fault := by
  rw [outcome, faulty, concluded]

theorem toInt_ofInt_value (faultless : expression.steps.findSome? fault? = none) :
    (Int64.ofInt expression.value).toInt = expression.value :=
  toInt_ofInt_of_isWord (isWord_value_of_faultless faultless)

/-! ## Outcomes of compound expressions -/

private theorem concluded_overflow? (value : Int) :
    concluded value (overflow? value) = checked value := by
  rw [checked_eq, overflow?]
  split <;> rfl

theorem outcome_literal (value : Nat) :
    (literal value).outcome =
      match Numeral.ofNat? value with
      | some word => .ok word
      | none => .error .overflow := by
  rw [outcome, steps, List.findSome?_singleton, fault?, Numeral.ofNat?]
  split
  next small => rfl
  next large => rfl

theorem outcome_group (inner : Expression) : (group inner).outcome = inner.outcome := by
  simp only [outcome, steps, findSome?_append_last, fault?, Option.or_none, value]

/-- The outcome of an operation whose operands come before it. -/
private theorem outcome_of_operands {left right : Expression}
    {apply : Int64 → Int64 → Except Fault Int64}
    (order : expression.steps = left.steps ++ right.steps ++ [expression])
    (applied : ∀ first second : Int64, first.toInt = left.value → second.toInt = right.value →
      apply first second = concluded expression.value expression.fault?) :
    expression.outcome = left.outcome >>= fun first => right.outcome >>= apply first := by
  have steps : expression.steps.findSome? fault? =
      ((left.steps.findSome? fault?).or (right.steps.findSome? fault?)).or
        expression.fault? := by
    rw [order, findSome?_append_last, List.findSome?_append]
  cases before : left.steps.findSome? fault? with
  | some fault =>
      rw [before, Option.some_or, Option.some_or] at steps
      rw [outcome_of_fault before, outcome_of_fault steps]
      rfl
  | none =>
      rw [before, Option.none_or] at steps
      rw [outcome_of_faultless before]
      cases after : right.steps.findSome? fault? with
      | some fault =>
          rw [after, Option.some_or] at steps
          rw [outcome_of_fault after, outcome_of_fault steps]
          rfl
      | none =>
          rw [after, Option.none_or] at steps
          rw [outcome_of_faultless after]
          have last := applied _ _ (toInt_ofInt_value before) (toInt_ofInt_value after)
          rw [outcome, steps]
          exact last.symm

theorem outcome_signed (signs : List Sign) (operand : Expression) :
    (signed signs operand).outcome =
      operand.outcome >>= fun word => if negates signs then negate word else .ok word := by
  have steps : (signed signs operand).steps.findSome? fault? =
      (operand.steps.findSome? fault?).or (signed signs operand).fault? := by
    rw [steps, findSome?_append_last]
  cases before : operand.steps.findSome? fault? with
  | some fault =>
      rw [before, Option.some_or] at steps
      rw [outcome_of_fault before, outcome_of_fault steps]
      rfl
  | none =>
      rw [before, Option.none_or] at steps
      rw [outcome_of_faultless before, outcome, steps, fault?, value]
      change _ = ite _ _ _
      split
      next negated => rw [concluded_overflow?, negate, toInt_ofInt_value before]
      next => rfl

theorem outcome_joined (left : Expression) (sign : Sign) (right : Expression) :
    (joined left sign right).outcome =
      left.outcome >>= fun first => right.outcome >>= total (some (first, sign)) := by
  refine outcome_of_operands rfl fun first second firstValue secondValue => ?_
  cases sign with
  | plus =>
      rw [fault?, value, concluded_overflow?, ← firstValue, ← secondValue]
      rfl
  | minus =>
      rw [fault?, value, concluded_overflow?, ← firstValue, ← secondValue]
      rfl

theorem outcome_scaled (sum : Option (Int64 × Sign)) (left : Expression) (scaling : Scaling)
    (right : Expression) :
    (scaled left scaling right).outcome =
      left.outcome >>= fun first => right.outcome >>= term (.ofTerm sum first scaling) := by
  refine outcome_of_operands rfl fun first second firstValue secondValue => ?_
  cases scaling with
  | times =>
      rw [fault?, value, concluded_overflow?, ← firstValue, ← secondValue]
      rfl
  | _ =>
      change divide first second = _
      rw [divide_eq, fault?, value, ← firstValue, ← secondValue]
      split
      next => rfl
      next => exact (concluded_overflow? _).symm

end Expression

end DiceLanguage.Arithmetic
