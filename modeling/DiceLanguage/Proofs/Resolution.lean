import DiceLanguage.Proofs.Wording
import DiceLanguage.Reader.Equations

/-!
# Resolved checks

The formula of an input is read as if it stood alone. A comparison adds a check
exactly when the interpretation knows both its relation and its target, and
each of the two is asked for at most once.
-/

set_option autoImplicit false

namespace DiceLanguage

namespace Interpretation

variable (interpretation : Interpretation) (wording : Wording)

@[simp] theorem target_folding (foldsCase : Bool) :
    interpretation.target (wording.folding foldsCase) = interpretation.target wording := by
  simp only [target, Wording.trimmedTarget_folding]

@[simp] theorem check?_folding (foldsCase : Bool) :
    interpretation.check? (wording.folding foldsCase) = interpretation.check? wording := by
  simp only [check?, Wording.hasCheck_folding, Wording.relation_folding, target_folding]

@[simp] theorem checkDiagnostics_folding (foldsCase : Bool) (position : Nat) :
    interpretation.checkDiagnostics (wording.folding foldsCase) position =
      interpretation.checkDiagnostics wording position := by
  have relation (answer : Option Relation) :
      Services.relationDiagnostics (wording.folding foldsCase) position answer =
        Services.relationDiagnostics wording position answer := by
    cases answer <;> simp [Services.relationDiagnostics, Services.unknownRelation]
  have target (answer : Except Fault Target) :
      Services.targetDiagnostics (wording.folding foldsCase) position answer =
        Services.targetDiagnostics wording position answer := by
    cases answer <;> simp [Services.targetDiagnostics, Services.badTarget]
  simp only [checkDiagnostics, Wording.hasCheck_folding, Wording.relation_folding, target_folding,
    relation, target]

theorem target_eq_error_iff (fault : Fault) :
    interpretation.target wording = .error fault ↔
      wording.trimmedTarget ≠ Target.queryMark ∧
        interpretation.value wording.trimmedTarget = .error fault := by
  unfold Interpretation.target
  split
  next query => simp [query]
  next other => cases interpretation.value wording.trimmedTarget <;> simp [other, Except.map]

theorem check?_eq_some_iff (check : Check) :
    interpretation.check? wording = some check ↔
      wording.hasCheck = true ∧ interpretation.relation? wording.relation = some check.relation ∧
        interpretation.target wording = .ok check.target := by
  unfold check?
  split
  next asked =>
    cases interpretation.relation? wording.relation with
    | none => simp [Services.check?]
    | some relation =>
        cases interpretation.target wording with
        | error fault => simp [Services.check?]
        | ok target =>
            obtain ⟨otherRelation, otherTarget⟩ := check
            simp [Services.check?, asked]
  next unasked => simp [unasked]

/-- A check is diagnosed at most twice, its relation before its target. -/
theorem exists_checkDiagnostics_eq (position : Nat) :
    ∃ unknown bad, interpretation.checkDiagnostics wording position = unknown ++ bad ∧
      (unknown = [] ∨
        unknown = [⟨.unknownRelation, position, wording.relationSpan, wording.relation⟩]) ∧
      (bad = [] ∨ ∃ fault, interpretation.target wording = .error fault ∧
        bad = [⟨.badTarget fault, position, wording.targetSpan, wording.target⟩]) := by
  unfold checkDiagnostics
  split
  next =>
    refine ⟨_, _, rfl, ?_, ?_⟩
    · cases interpretation.relation? wording.relation with
      | none => exact .inr rfl
      | some relation => exact .inl rfl
    · cases interpretation.target wording with
      | error fault => exact .inr ⟨fault, rfl, rfl⟩
      | ok target => exact .inl rfl
  next => exact ⟨[], [], rfl, .inl rfl, .inl rfl⟩

theorem mem_checkDiagnostics_cases {position : Nat} {diagnostic : Diagnostic}
    (member : diagnostic ∈ interpretation.checkDiagnostics wording position) :
    diagnostic = ⟨.unknownRelation, position, wording.relationSpan, wording.relation⟩ ∨
      ∃ fault, interpretation.target wording = .error fault ∧
        diagnostic = ⟨.badTarget fault, position, wording.targetSpan, wording.target⟩ := by
  obtain ⟨unknown, bad, together, relation, target⟩ :=
    interpretation.exists_checkDiagnostics_eq wording position
  rw [together, List.mem_append] at member
  rcases member with ofRelation | ofTarget
  · rcases relation with rfl | rfl
    · cases ofRelation
    · exact .inl (List.mem_singleton.mp ofRelation)
  · rcases target with rfl | ⟨fault, failed, rfl⟩
    · cases ofTarget
    · exact .inr ⟨fault, failed, List.mem_singleton.mp ofTarget⟩

end Interpretation

namespace Reader

variable (reader : Reader) {input : String} {wording : Wording}

theorem tokens_formula (divides : wording.Divides input) :
    reader.tokens wording.formula = reader.tokens input := by
  have alone := Wording.ofInput_of_formula divides.formula
  simp only [tokens, Reader.wording, divides.ofInput_eq, alone]
  cases reader.options.foldsCase <;> rfl

theorem read_formula (divides : wording.Divides input) :
    reader.read wording.formula =
      ⟨⟨(reader.reading input).formula, none⟩,
        (reader.reading input).diagnostics (reader.tokens input)⟩ := by
  have alone := Wording.ofInput_of_formula divides.formula
  have unchecked (position : Nat) :
      reader.interpretation.checkDiagnostics ⟨wording.formula, "", ""⟩ position = [] := rfl
  rw [read_eq, reading, reader.tokens_formula divides, ← reading, Reader.wording, alone,
    Interpretation.check?_folding, Interpretation.checkDiagnostics_folding, unchecked,
    List.append_nil]
  rfl

/-- A check and its diagnostics are added to what the formula alone is read
as. -/
theorem read_divided (divides : wording.Divides input) :
    reader.read input =
      ⟨⟨(reader.read wording.formula).roll.formula, reader.interpretation.check? wording⟩,
        (reader.read wording.formula).diagnostics ++
          reader.interpretation.checkDiagnostics wording (reader.tokens input).length⟩ := by
  rw [read_eq, reader.read_formula divides, Reader.wording, divides.ofInput_eq,
    Interpretation.check?_folding, Interpretation.checkDiagnostics_folding]

end Reader

end DiceLanguage
