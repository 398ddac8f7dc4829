import DiceLanguage.Proofs.Diagnosis.Order
import Mathlib.Data.List.Forall2

/-!
# The two sides of an input

A formula is read alike whatever comparison follows it, and a comparison alike
whatever formula stands before it. Only where the diagnostics of the comparison
stand depends on the formula, by the number of its tokens and bytes.
-/

set_option autoImplicit false

namespace DiceLanguage

open Text

def Cause.isOfFormula : Cause → Bool
  | .missingNumber | .unexpected .. | .leftover _ => true
  | .badTarget _ | .unknownRelation => false

def Outcome.ofCheck (outcome : Outcome) : List Diagnostic :=
  outcome.diagnostics.filter fun diagnostic => !diagnostic.cause.isOfFormula

def Text.Span.shift (distance : Nat) (span : Span) : Span :=
  ⟨distance + span.start, distance + span.stop⟩

namespace Diagnostic

def shift (tokens bytes : Nat) (diagnostic : Diagnostic) : Diagnostic :=
  { diagnostic with
    position := tokens + diagnostic.position
    span := diagnostic.span.shift bytes }

/-- Two diagnostics say the same, and the one stands further on by some tokens
and bytes. -/
structure Displaced (tokens bytes : Int) (one other : Diagnostic) : Prop where
  cause : one.cause = other.cause
  text : one.text = other.text
  position : (one.position : Int) - other.position = tokens
  start : (one.span.start : Int) - other.span.start = bytes
  stop : (one.span.stop : Int) - other.span.stop = bytes

theorem displaced_shift (tokens bytes otherTokens otherBytes : Nat) (diagnostic : Diagnostic) :
    Displaced (tokens - otherTokens) (bytes - otherBytes)
      (diagnostic.shift tokens bytes) (diagnostic.shift otherTokens otherBytes) := by
  constructor
  case cause => rfl
  case text => rfl
  all_goals
    simp only [shift, Span.shift]
    omega

private theorem forall₂_displaced (tokens bytes otherTokens otherBytes : Nat)
    (diagnostics : List Diagnostic) :
    List.Forall₂ (Displaced (tokens - otherTokens) (bytes - otherBytes))
      (diagnostics.map (shift tokens bytes)) (diagnostics.map (shift otherTokens otherBytes)) := by
  rw [List.forall₂_map_left_iff, List.forall₂_map_right_iff, List.forall₂_same]
  intro diagnostic _
  exact displaced_shift tokens bytes otherTokens otherBytes diagnostic

end Diagnostic

theorem Reading.isOfFormula_of_mem_diagnostics {reading : Reading} {tokens : List Token}
    {diagnostic : Diagnostic} (member : diagnostic ∈ reading.diagnostics tokens) :
    diagnostic.cause.isOfFormula = true := by
  rcases cause_of_mem_diagnostics member with missing | ⟨count, leftover⟩
  · rw [missing]
    rfl
  · rw [leftover]
    rfl

namespace Interpretation

variable (interpretation : Interpretation) (formula relation target : String)

theorem isOfFormula_of_mem_checkDiagnostics {wording : Wording} {position : Nat}
    {diagnostic : Diagnostic}
    (member : diagnostic ∈ interpretation.checkDiagnostics wording position) :
    diagnostic.cause.isOfFormula = false := by
  rcases interpretation.mem_checkDiagnostics_cases wording member with rfl | ⟨fault, _, rfl⟩
  · rfl
  · rfl

/-- The formula decides only where a check is diagnosed. -/
theorem checkDiagnostics_eq_map_shift (position : Nat) :
    interpretation.checkDiagnostics ⟨formula, relation, target⟩ position =
      (interpretation.checkDiagnostics ⟨"", relation, target⟩ 0).map
        (Diagnostic.shift position (byteLength formula.toList)) := by
  have asked : (Wording.mk formula relation target).hasCheck =
      (Wording.mk "" relation target).hasCheck := rfl
  have unknown (answer : Option Relation) :
      Services.relationDiagnostics ⟨formula, relation, target⟩ position answer =
        (Services.relationDiagnostics ⟨"", relation, target⟩ 0 answer).map
          (Diagnostic.shift position (byteLength formula.toList)) := by
    cases answer <;>
      simp [Services.relationDiagnostics, Services.unknownRelation, Diagnostic.shift,
        Wording.relationSpan, Span.of, Span.shift]
  have bad (answer : Except Fault Target) :
      Services.targetDiagnostics ⟨formula, relation, target⟩ position answer =
        (Services.targetDiagnostics ⟨"", relation, target⟩ 0 answer).map
          (Diagnostic.shift position (byteLength formula.toList)) := by
    cases answer <;>
      simp [Services.targetDiagnostics, Services.badTarget, Diagnostic.shift, Wording.targetSpan,
        Wording.relationSpan, Span.of, Span.shift, Nat.add_assoc]
  simp only [checkDiagnostics, asked]
  split
  next =>
    rw [List.map_append, unknown, bad]
    rfl
  next => rfl

end Interpretation

namespace Reader

variable (reader : Reader)

private theorem ofCheck_read {input : String} {wording : Wording}
    (divides : wording.Divides input) :
    (reader.read input).ofCheck =
      reader.interpretation.checkDiagnostics wording (reader.tokens input).length := by
  have formulaOnly : (reader.read wording.formula).ofCheck = [] := by
    rw [Outcome.ofCheck, List.filter_eq_nil_iff, reader.read_formula divides]
    intro diagnostic member
    simp [Reading.isOfFormula_of_mem_diagnostics member]
  have checkOnly : (reader.interpretation.checkDiagnostics wording
      (reader.tokens input).length).filter (fun diagnostic => !diagnostic.cause.isOfFormula) =
        reader.interpretation.checkDiagnostics wording (reader.tokens input).length := by
    rw [List.filter_eq_self]
    intro diagnostic member
    simp [reader.interpretation.isOfFormula_of_mem_checkDiagnostics member]
  rw [Outcome.ofCheck] at formulaOnly ⊢
  rw [reader.read_divided divides, List.filter_append, formulaOnly, checkOnly, List.nil_append]

/-- What stands on one side of a comparison has no effect on the other side,
except on the places of the diagnostics after it. -/
theorem read_sides {relation target : String} (asked : relation ≠ "")
    (comparison : ∀ character ∈ relation.toList, Wording.isComparison character = true)
    (closed : ∀ character, target.toList.head? = some character →
      Wording.isComparison character = false) :
    let plain (formula : String) :=
      ∀ character ∈ formula.toList, Wording.isComparison character = false
    let outcome (formula : String) := reader.read (formula ++ relation ++ target)
    (∀ formula, plain formula →
      (outcome formula).roll.formula = (reader.read formula).roll.formula ∧
      (outcome formula).diagnostics =
        (reader.read formula).diagnostics ++ (outcome formula).ofCheck) ∧
    ∀ one other, plain one → plain other →
      (outcome one).roll.check = (outcome other).roll.check ∧
      List.Forall₂
        (Diagnostic.Displaced
          ((reader.tokens one).length - (reader.tokens other).length)
          (byteLength one.toList - byteLength other.toList))
        (outcome one).ofCheck (outcome other).ofCheck := by
  intro plain outcome
  have divides {formula : String} (isPlain : plain formula) :
      (Wording.mk formula relation target).Divides (formula ++ relation ++ target) :=
    ⟨(String.append_assoc ..).symm, isPlain, comparison, closed, fun bare => absurd bare asked⟩
  constructor
  · intro formula isPlain
    have divided : outcome formula = _ := reader.read_divided (divides isPlain)
    rw [reader.ofCheck_read (divides isPlain), divided]
    exact ⟨rfl, rfl⟩
  · intro one other oneIsPlain otherIsPlain
    have counted {formula : String} (isPlain : plain formula) :
        (outcome formula).ofCheck =
          (reader.interpretation.checkDiagnostics ⟨"", relation, target⟩ 0).map
            (Diagnostic.shift (reader.tokens formula).length (byteLength formula.toList)) := by
      rw [reader.ofCheck_read (divides isPlain), ← reader.tokens_formula (divides isPlain),
        Interpretation.checkDiagnostics_eq_map_shift]
    constructor
    · have oneDivided : outcome one = _ := reader.read_divided (divides oneIsPlain)
      have otherDivided : outcome other = _ := reader.read_divided (divides otherIsPlain)
      rw [oneDivided, otherDivided]
      rfl
    · rw [counted oneIsPlain, counted otherIsPlain]
      exact Diagnostic.forall₂_displaced _ _ _ _ _

theorem read_sides_unknown :
    let read := (standard .standard).read
    (read ("S2D×" ++ "=<>" ++ "1 (<2")).diagnostics =
        (read "S2D×").diagnostics ++
          [⟨.unknownRelation, 4, ⟨5, 8⟩, "=<>"⟩,
            ⟨.badTarget (.unexpected 2 "("), 4, ⟨8, 13⟩, "1 (<2"⟩] ∧
      (read ("S2D×" ++ "=<>" ++ "1 (<2")).roll.check = (read ("7" ++ "=<>" ++ "1 (<2")).roll.check ∧
      List.Forall₂ (Diagnostic.Displaced (4 - 1) (5 - 1))
        (read ("S2D×" ++ "=<>" ++ "1 (<2")).ofCheck (read ("7" ++ "=<>" ++ "1 (<2")).ofCheck := by
  have comparison : ∀ character ∈ "=<>".toList, Wording.isComparison character = true := by
    simp [Wording.isComparison]
  have closed : ∀ character, "1 (<2".toList.head? = some character →
      Wording.isComparison character = false := by
    intro character first
    cases first
    rfl
  have first : ∀ character ∈ "S2D×".toList, Wording.isComparison character = false := by
    simp [Wording.isComparison]
  have second : ∀ character ∈ "7".toList, Wording.isComparison character = false := by
    simp [Wording.isComparison]
  have added : ((standard .standard).read ("S2D×" ++ "=<>" ++ "1 (<2")).ofCheck =
      [⟨.unknownRelation, 4, ⟨5, 8⟩, "=<>"⟩,
        ⟨.badTarget (.unexpected 2 "("), 4, ⟨8, 13⟩, "1 (<2"⟩] := by
    decide +kernel
  obtain ⟨alone, together⟩ := (standard .standard).read_sides (by decide) comparison closed
  exact ⟨added ▸ (alone _ first).2, together _ _ first second⟩

end Reader

end DiceLanguage
