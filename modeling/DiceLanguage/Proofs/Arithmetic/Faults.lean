import DiceLanguage.Arithmetic.Evaluation
import DiceLanguage.Proofs.Arithmetic.Checked
import DiceLanguage.Proofs.Text.Tiles

/-!
# Causes of faults

A step of an evaluation fails in arithmetic, by a group too many or by the
lexeme that it meets. So an unexpected text is that of a lexeme, and stands in
the evaluated text at the position that the fault gives.
-/

set_option autoImplicit false

namespace DiceLanguage.Arithmetic

open Text

inductive IsNumeric : Fault → Prop where
  | overflow : IsNumeric .overflow
  | divisionByZero : IsNumeric .divisionByZero

theorem bind_eq_error_cases {α β : Type} {first : Except Fault α} {next : α → Except Fault β}
    {fault : Fault} (failed : first >>= next = .error fault) :
    first = .error fault ∨ ∃ value, first = .ok value ∧ next value = .error fault := by
  cases first with
  | error other =>
      cases failed
      exact .inl rfl
  | ok value => exact .inr ⟨value, rfl, failed⟩

variable {fault : Fault}

private theorem isNumeric_of_checked {value : Int} (failed : checked value = .error fault) :
    IsNumeric fault := by
  rw [checked_eq] at failed
  split at failed
  next => cases failed
  next =>
    cases failed
    exact .overflow

private theorem isNumeric_of_divide {dividend divisor : Int64}
    (failed : divide dividend divisor = .error fault) : IsNumeric fault := by
  rw [divide_eq] at failed
  split at failed
  next =>
    cases failed
    exact .divisionByZero
  next => exact isNumeric_of_checked failed

private theorem isNumeric_of_signed {pending : Pending Int64} {operand : Int64}
    (failed : signed pending operand = .error fault) : IsNumeric fault := by
  unfold signed at failed
  split at failed
  next => exact isNumeric_of_checked failed
  next => cases failed

private theorem isNumeric_of_term {pending : Pending Int64} {factor : Int64}
    (failed : term pending factor = .error fault) : IsNumeric fault := by
  unfold term at failed
  split at failed
  next => cases failed
  next => exact isNumeric_of_checked failed
  next => exact isNumeric_of_divide failed

theorem isNumeric_of_total {sum : Option (Int64 × Sign)} {value : Int64}
    (failed : total sum value = .error fault) : IsNumeric fault := by
  unfold total at failed
  split at failed
  next => cases failed
  next => exact isNumeric_of_checked failed
  next => exact isNumeric_of_checked failed

namespace Stage

theorem isNumeric_of_complete {pending : Pending Int64} {around : List (Pending Int64)}
    {operand : Int64} (failed : complete pending around operand = .error fault) :
    IsNumeric fault := by
  rcases bind_eq_error_cases failed with failed | ⟨factor, _, failed⟩
  · exact isNumeric_of_signed failed
  · rcases bind_eq_error_cases failed with failed | ⟨value, _, failed⟩
    · exact isNumeric_of_term failed
    · cases failed

inductive Fails (lexeme : Lexeme) : Fault → Prop where
  | numeric {cause : Fault} : IsNumeric cause → Fails lexeme cause
  | tooDeep : Fails lexeme (.tooDeep nestingLimit)
  | unexpected : Fails lexeme lexeme.unexpected

variable {lexeme : Lexeme}

private theorem fails_of_takeOperand {pending : Pending Int64} {around : List (Pending Int64)}
    (failed : takeOperand pending around lexeme = .error fault) : Fails lexeme fault := by
  unfold takeOperand at failed
  cases kind : lexeme.symbol with
  | plus => simp [kind] at failed
  | minus => simp [kind] at failed
  | literal value =>
      simp only [kind] at failed
      split at failed
      next => exact .numeric (isNumeric_of_complete failed)
      next =>
        cases failed
        exact .numeric .overflow
  | opening =>
      simp only [kind] at failed
      split at failed
      next =>
        cases failed
        exact .tooDeep
      next => cases failed
  | _ =>
      simp only [kind] at failed
      cases failed
      exact .unexpected

private theorem fails_of_takeOperator {sum : Option (Int64 × Sign)} {value : Int64}
    {around : List (Pending Int64)}
    (failed : takeOperator sum value around lexeme = .error fault) : Fails lexeme fault := by
  unfold takeOperator at failed
  cases kind : lexeme.symbol with
  | star => simp [kind] at failed
  | slash => simp [kind] at failed
  | closing =>
      simp only [kind] at failed
      rcases bind_eq_error_cases failed with failed | ⟨result, _, failed⟩
      · exact .numeric (isNumeric_of_total failed)
      · split at failed
        next =>
          cases failed
          exact .unexpected
        next => exact .numeric (isNumeric_of_complete failed)
  | plus =>
      simp only [kind] at failed
      rcases bind_eq_error_cases failed with failed | ⟨result, _, failed⟩
      · exact .numeric (isNumeric_of_total failed)
      · cases failed
  | minus =>
      simp only [kind] at failed
      rcases bind_eq_error_cases failed with failed | ⟨result, _, failed⟩
      · exact .numeric (isNumeric_of_total failed)
      · cases failed
  | _ =>
      simp only [kind] at failed
      rcases bind_eq_error_cases failed with failed | ⟨result, _, failed⟩
      · exact .numeric (isNumeric_of_total failed)
      · cases failed
        exact .unexpected

theorem fails_of_take {stage : Stage} (failed : stage.take lexeme = .error fault) :
    Fails lexeme fault := by
  cases stage with
  | awaiting pending around => exact fails_of_takeOperand failed
  | holding sum value around => exact fails_of_takeOperator failed

/-- The lexemes before the one that fails are taken without a fault. -/
theorem exists_failed_of_takes {stage : Stage} {lexemes : List Lexeme}
    (failed : lexemes.foldlM take stage = .error fault) :
    ∃ earlier lexeme later reached, lexemes = earlier ++ lexeme :: later ∧
      earlier.foldlM take stage = .ok reached ∧ reached.take lexeme = .error fault := by
  induction lexemes generalizing stage with
  | nil => cases failed
  | cons lexeme rest ih =>
      rw [List.foldlM_cons] at failed
      rcases bind_eq_error_cases failed with failed | ⟨next, taken, failed⟩
      · exact ⟨[], lexeme, rest, stage, rfl, rfl, failed⟩
      · obtain ⟨earlier, other, later, reached, rfl, takes, failed⟩ := ih failed
        refine ⟨lexeme :: earlier, other, later, reached, rfl, ?_, failed⟩
        rw [List.foldlM_cons, taken]
        exact takes

theorem exists_fails_of_takes {stage : Stage} {lexemes : List Lexeme}
    (failed : lexemes.foldlM take stage = .error fault) :
    ∃ lexeme ∈ lexemes, Fails lexeme fault := by
  obtain ⟨earlier, lexeme, later, reached, rfl, _, failed⟩ := exists_failed_of_takes failed
  exact ⟨lexeme, by simp, fails_of_take failed⟩

theorem ne_unexpected_of_finish {stage : Stage} {position : Nat} {found : String} :
    stage.finish ≠ .error (.unexpected position found) := by
  intro failed
  cases stage with
  | awaiting => cases failed
  | holding sum value around =>
      rcases bind_eq_error_cases failed with failed | ⟨result, _, failed⟩
      · cases isNumeric_of_total failed
      · split at failed <;> cases failed

end Stage

private theorem exists_lexeme_of_unexpected {lexemes : List Lexeme} {position : Nat}
    {found : String} (failed : evaluateLexemes lexemes = .error (.unexpected position found)) :
    ∃ lexeme ∈ lexemes, lexeme.position = position ∧ lexeme.text = found := by
  rcases bind_eq_error_cases failed with failed | ⟨stage, _, failed⟩
  · obtain ⟨lexeme, member, fails⟩ := Stage.exists_fails_of_takes failed
    cases fails with
    | numeric isNumeric => cases isNumeric
    | unexpected => exact ⟨lexeme, member, rfl, rfl⟩
  · exact absurd failed Stage.ne_unexpected_of_finish

private theorem Lexeme.exists_append_of_mem_scan {text : String} {lexeme : Lexeme}
    (member : lexeme ∈ scan text) :
    ∃ before after, text.toList = before ++ lexeme.text.toList ++ after ∧
      byteLength before = lexeme.position ∧ lexeme.text ≠ "" := by
  obtain ⟨piece, among, rfl⟩ := List.mem_map.mp member
  obtain ⟨before, after, together, begins⟩ := (tiles_pieces text.toList).exists_append piece among
  refine ⟨before, after, ?_, ?_, ?_⟩
  · rw [ofPiece, String.toList_ofList, together]
  · rw [ofPiece, begins, Nat.zero_add]
  · intro empty
    have nonempty := (isCut_of_mem_pieces among).1.ne_nil
    exact nonempty (String.ofList_eq_empty_iff.mp empty)

/-- What an evaluation did not expect is no empty text, and stands where the
fault says. -/
theorem exists_append_of_evaluate {text : String} {position : Nat} {found : String}
    (failed : evaluate text = .error (.unexpected position found)) :
    ∃ before after, text.toList = before ++ found.toList ++ after ∧
      byteLength before = position ∧ found ≠ "" := by
  obtain ⟨lexeme, member, rfl, rfl⟩ := exists_lexeme_of_unexpected failed
  exact Lexeme.exists_append_of_mem_scan member

end DiceLanguage.Arithmetic
