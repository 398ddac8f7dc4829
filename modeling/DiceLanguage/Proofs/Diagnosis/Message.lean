import DiceLanguage.Proofs.Arithmetic.Faults
import DiceLanguage.Proofs.Diagnosis.Order
import DiceLanguage.Proofs.Text.OneLine

/-!
# Messages on one line

A fault of arithmetic, and so a diagnostic of a reader with the usual meaning
of targets, says what it has to say on one line. Only an interpretation's own
reasons can have more.
-/

set_option autoImplicit false

namespace DiceLanguage

open Text

namespace Arithmetic

variable {fault : Fault}

private theorem isOneLine_message_of_isNumeric (numeric : IsNumeric fault) :
    IsOneLine fault.message := by
  unfold Fault.message
  cases numeric <;> simp [IsOneLine]

private theorem isOneLine_message_unfinished : IsOneLine Fault.unfinished.message := by
  unfold Fault.message
  simp [IsOneLine]

private theorem isOneLine_message_of_finish {stage : Stage} (failed : stage.finish = .error fault) :
    IsOneLine fault.message := by
  cases stage with
  | awaiting =>
      cases failed
      exact isOneLine_message_unfinished
  | holding sum value around =>
      rcases bind_eq_error_cases failed with failed | ⟨result, _, failed⟩
      · exact isOneLine_message_of_isNumeric (isNumeric_of_total failed)
      · split at failed <;> cases failed
        exact isOneLine_message_unfinished

private theorem isOneLine_message_of_fails {lexeme : Lexeme} (fails : Stage.Fails lexeme fault) :
    IsOneLine fault.message := by
  cases fails with
  | numeric numeric => exact isOneLine_message_of_isNumeric numeric
  | tooDeep =>
      refine IsOneLine.append ?_ (Numeral.isOneLine_count _)
      simp [IsOneLine]
  | unexpected =>
      refine IsOneLine.append (IsOneLine.append (IsOneLine.append ?_
        (Quoted.isOneLine_ofString _)) ?_) (Numeral.isOneLine_count _)
      all_goals simp [IsOneLine]

private theorem isOneLine_message_of_evaluate {text : String}
    (failed : evaluate text = .error fault) :
    IsOneLine fault.message := by
  rcases bind_eq_error_cases failed with failed | ⟨stage, _, failed⟩
  · obtain ⟨lexeme, _, fails⟩ := Stage.exists_fails_of_takes failed
    exact isOneLine_message_of_fails fails
  · exact isOneLine_message_of_finish failed

end Arithmetic

private theorem Cause.isOneLine_message_leftover (count : Nat) :
    IsOneLine (leftover count).message := by
  unfold message
  dsimp only
  split
  next => simp [IsOneLine]
  next =>
    refine IsOneLine.append (Numeral.isOneLine_count _) ?_
    simp [IsOneLine]

theorem Diagnostic.isOneLine_message {diagnostic : Diagnostic}
    (cause : IsOneLine diagnostic.cause.message) : IsOneLine diagnostic.message := by
  have place : IsOneLine ("error at token " ++ Numeral.count diagnostic.position) :=
    IsOneLine.append (by simp [IsOneLine]) (Numeral.isOneLine_count _)
  have quoted : IsOneLine (Quoted.ofString diagnostic.text) := Quoted.isOneLine_ofString _
  refine ((IsOneLine.append (place.append ?_) quoted).append ?_).append cause
  all_goals simp [IsOneLine]

private theorem Reading.isOneLine_cause_diagnostics {reading : Reading} {tokens : List Token}
    {diagnostic : Diagnostic} (member : diagnostic ∈ reading.diagnostics tokens) :
    IsOneLine diagnostic.cause.message := by
  rcases cause_of_mem_diagnostics member with missing | ⟨count, leftover⟩
  · rw [missing]
    unfold Cause.message
    simp [IsOneLine]
  · rw [leftover]
    exact Cause.isOneLine_message_leftover count

private theorem Interpretation.isOneLine_cause_checkDiagnostics {wording : Wording} {position : Nat}
    {diagnostic : Diagnostic} (member : diagnostic ∈ standard.checkDiagnostics wording position) :
    IsOneLine diagnostic.cause.message := by
  rcases standard.mem_checkDiagnostics_cases wording member with rfl | ⟨fault, failed, rfl⟩
  · unfold Cause.message
    simp [IsOneLine]
  · have evaluated := ((standard.target_eq_error_iff wording fault).mp failed).2
    refine IsOneLine.append ?_ (Arithmetic.isOneLine_message_of_evaluate evaluated)
    simp [IsOneLine]

theorem Reader.isOneLine_message_of_mem_read (options : Options) (input : String)
    {diagnostic : Diagnostic} (member : diagnostic ∈ ((standard options).read input).diagnostics) :
    IsOneLine diagnostic.message := by
  apply Diagnostic.isOneLine_message
  rw [read_eq] at member
  rcases List.mem_append.mp member with ofFormula | ofCheck
  · exact Reading.isOneLine_cause_diagnostics ofFormula
  · exact Interpretation.isOneLine_cause_checkDiagnostics ofCheck

end DiceLanguage
