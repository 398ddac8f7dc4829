import DiceLanguage.Proofs.Arithmetic.Beginnings
import DiceLanguage.Proofs.Arithmetic.Faults

/-!
# Places of symbols

Which symbols an evaluation expects depends only on how many groups are open
and on whether an operand or an operator comes next. An expression leads from
where an operand comes next to where an operator does, in the same group, and
an evaluation calls a lexeme unexpected only where its symbol has no place.
-/

set_option autoImplicit false

namespace DiceLanguage.Arithmetic

/-- What comes next within some number of open groups. -/
inductive Place where
  | operand (depth : Nat)
  | operator (depth : Nat)

def Place.take? : Place → Symbol → Option Place
  | .operand depth, .plus | .operand depth, .minus => some (.operand depth)
  | .operand depth, .literal _ => some (.operator depth)
  | .operand depth, .opening => some (.operand (depth + 1))
  | .operator depth, .plus | .operator depth, .minus => some (.operand depth)
  | .operator depth, .star | .operator depth, .slash => some (.operand depth)
  | .operator (depth + 1), .closing => some (.operator depth)
  | _, _ => none

namespace Place

private theorem take?_operand_ofSign (depth : Nat) (sign : Sign) :
    (operand depth).take? (.ofSign sign) = some (.operand depth) := by
  cases sign <;> rfl

private theorem take?_operator_ofSign (depth : Nat) (sign : Sign) :
    (operator depth).take? (.ofSign sign) = some (.operand depth) := by
  cases sign <;> rfl

private theorem take?_operator_ofScaling (depth : Nat) (scaling : Scaling) :
    (operator depth).take? (.ofScaling scaling) = some (.operand depth) := by
  cases scaling <;> rfl

/-- No symbol has its place by the value of a literal. -/
theorem take?_literal_eq (place : Place) (value other : Nat) :
    place.take? (.literal value) = place.take? (.literal other) := by
  cases place <;> rfl

private theorem foldlM_take?_signs (depth : Nat) (signs : List Sign) :
    (signs.map Symbol.ofSign).foldlM take? (.operand depth) = some (.operand depth) := by
  induction signs with
  | nil => rfl
  | cons sign rest ih => simpa [take?_operand_ofSign] using ih

end Place

/-- Every phrase leads from an operand to an operator within the same groups. -/
theorem Derives.takes {phrase : Phrase} {symbols : List Symbol} {expression : Expression}
    (derived : Derives phrase symbols expression) (depth : Nat) :
    symbols.foldlM Place.take? (.operand depth) = some (.operator depth) := by
  induction derived generalizing depth with
  | literal => rfl
  | group _ ih =>
      have opens : (Place.operand depth).take? .opening = some (.operand (depth + 1)) := rfl
      simp [opens, ih]
      rfl
  | signed signs _ ih => simp [Place.foldlM_take?_signs, ih]
  | factor _ ih => exact ih depth
  | scaled scaling _ _ leftIH rightIH =>
      simp [leftIH, rightIH, Place.take?_operator_ofScaling]
  | term _ ih => exact ih depth
  | joined sign _ _ leftIH rightIH => simp [leftIH, rightIH, Place.take?_operator_ofSign]

namespace Stage

def place : Stage → Place
  | .awaiting _ around => .operand around.length
  | .holding _ _ around => .operator around.length

variable {lexeme : Lexeme} {stage next : Stage} {pending : Pending Int64}
  {around : List (Pending Int64)} {operand : Int64}

private theorem place_of_complete (completed : complete pending around operand = .ok next) :
    next.place = .operator around.length := by
  obtain ⟨factor, _, completed⟩ := exists_of_bind_eq_ok completed
  obtain ⟨value, _, completed⟩ := exists_of_bind_eq_ok completed
  cases completed
  rfl

private theorem take?_place_of_takeOperand (taken : takeOperand pending around lexeme = .ok next) :
    (Place.operand around.length).take? lexeme.symbol = some next.place := by
  unfold takeOperand at taken
  cases kind : lexeme.symbol <;> simp only [kind] at taken
  case plus | minus =>
    cases taken
    rfl
  case literal =>
    split at taken
    · rw [place_of_complete taken]
      rfl
    · cases taken
  case opening =>
    split at taken
    · cases taken
    · cases taken
      rfl
  all_goals cases taken

private theorem take?_place_of_takeOperator {sum : Option (Int64 × Sign)} {value : Int64}
    (taken : takeOperator sum value around lexeme = .ok next) :
    (Place.operator around.length).take? lexeme.symbol = some next.place := by
  unfold takeOperator at taken
  cases kind : lexeme.symbol <;> simp only [kind] at taken
  case star | slash =>
    cases taken
    rfl
  case plus | minus =>
    obtain ⟨result, _, taken⟩ := exists_of_bind_eq_ok taken
    cases taken
    rfl
  case closing =>
    obtain ⟨result, _, taken⟩ := exists_of_bind_eq_ok taken
    cases around with
    | nil => cases taken
    | cons pending outer =>
        rw [place_of_complete taken]
        rfl
  all_goals
    obtain ⟨result, _, taken⟩ := exists_of_bind_eq_ok taken
    cases taken

theorem take?_place_of_take (taken : stage.take lexeme = .ok next) :
    stage.place.take? lexeme.symbol = some next.place := by
  cases stage with
  | awaiting pending around => exact take?_place_of_takeOperand taken
  | holding sum value around => exact take?_place_of_takeOperator taken

theorem foldlM_take?_place_of_takes {lexemes : List Lexeme}
    (taken : lexemes.foldlM take stage = .ok next) :
    (lexemes.map Lexeme.symbol).foldlM Place.take? stage.place = some next.place := by
  induction lexemes generalizing stage with
  | nil =>
      cases taken
      rfl
  | cons lexeme rest ih =>
      obtain ⟨middle, first, others⟩ := exists_of_bind_eq_ok taken
      simpa [take?_place_of_take first] using ih others

/-! ## Unexpected lexemes -/

section

variable {position : Nat} {found : String}

private theorem take?_place_of_unexpected_operand
    (failed : takeOperand pending around lexeme = .error (.unexpected position found)) :
    (Place.operand around.length).take? lexeme.symbol = none := by
  unfold takeOperand at failed
  cases kind : lexeme.symbol <;> simp only [kind] at failed
  case star | slash | closing | unknown => rfl
  case plus | minus => cases failed
  case literal =>
    split at failed
    · cases isNumeric_of_complete failed
    · cases failed
  case opening => split at failed <;> cases failed

/-- The sum before a lexeme is computed first, and its faults are numeric. -/
private theorem exists_total_of_unexpected {α : Type} {sum : Option (Int64 × Sign)} {value : Int64}
    {goOn : Int64 → Except Fault α}
    (failed : total sum value >>= goOn = .error (.unexpected position found)) :
    ∃ result, goOn result = .error (.unexpected position found) := by
  rcases bind_eq_error_cases failed with failed | ⟨result, _, failed⟩
  · cases isNumeric_of_total failed
  · exact ⟨result, failed⟩

private theorem take?_place_of_unexpected_operator {sum : Option (Int64 × Sign)} {value : Int64}
    (failed : takeOperator sum value around lexeme = .error (.unexpected position found)) :
    (Place.operator around.length).take? lexeme.symbol = none := by
  unfold takeOperator at failed
  cases kind : lexeme.symbol <;> simp only [kind] at failed
  case literal | opening | unknown => rfl
  case star | slash => cases failed
  case plus | minus =>
    obtain ⟨result, failed⟩ := exists_total_of_unexpected failed
    cases failed
  case closing =>
    obtain ⟨result, failed⟩ := exists_total_of_unexpected failed
    cases around with
    | nil => rfl
    | cons pending outer => cases isNumeric_of_complete failed

theorem take?_place_of_unexpected
    (failed : stage.take lexeme = .error (.unexpected position found)) :
    stage.place.take? lexeme.symbol = none := by
  cases stage with
  | awaiting pending around => exact take?_place_of_unexpected_operand failed
  | holding sum value around => exact take?_place_of_unexpected_operator failed

end

theorem place_ne_of_unfinished (unfinished : stage.finish = .error .unfinished) :
    stage.place ≠ .operator 0 := by
  cases stage with
  | awaiting => simp [place]
  | holding sum value around =>
      cases around with
      | cons => simp [place]
      | nil =>
          rcases bind_eq_error_cases unfinished with failed | ⟨result, _, failed⟩
          · cases isNumeric_of_total failed
          · cases failed

end Stage

end DiceLanguage.Arithmetic
