import DiceLanguage.Proofs.Arithmetic.Numeral
import DiceLanguage.Proofs.Formula.Spelling
import DiceLanguage.Proofs.Formula.Written
import DiceLanguage.Proofs.Reading.Canonical
import DiceLanguage.Proofs.Wording
import DiceLanguage.Reader.Equations

/-!
# Rolls are read as they are written

What is written for a roll that was read is read as the same roll, with
nothing to diagnose. Only a check against the least word is not: what is
written for that word has no value.
-/

set_option autoImplicit false

namespace DiceLanguage

open Text

/-! ## Checks -/

private theorem Relation.symbol_ne_empty (relation : Relation) : relation.symbol ≠ "" := by
  cases relation <;> decide

private theorem Relation.isComparison_symbol (relation : Relation) :
    ∀ character ∈ relation.symbol.toList, Wording.isComparison character = true := by
  apply List.all_eq_true.mp
  cases relation <;> rfl

namespace Target

private theorem render_ne_empty (target : Target) : target.render ≠ "" := by
  cases target with
  | value word =>
      intro empty
      have none := congrArg String.toList empty
      rw [render, Numeral.render, String.toList_ofList] at none
      exact Numeral.written_ne_nil word none
  | query => decide +kernel

private theorem isWritable_render_value (word : Int64) :
    Formula.IsWritable (value word).render.toList := by
  rw [render, Numeral.render, String.toList_ofList]
  exact Formula.isWritable_word word

private theorem isBlank_render (target : Target) :
    ∀ character ∈ target.render.toList, isBlank character = false := by
  cases target with
  | value word =>
      intro character member
      exact (isWritable_render_value word).isBlank_eq member
  | query =>
      intro character member
      rw [List.mem_singleton.mp member]
      rfl

private theorem isComparison_render (target : Target) :
    ∀ character ∈ target.render.toList, Wording.isComparison character = false := by
  cases target with
  | value word =>
      intro character member
      exact (isWritable_render_value word).isComparison_eq member
  | query =>
      intro character member
      rw [List.mem_singleton.mp member]
      rfl

theorem render_value_ne_queryMark (word : Int64) : (value word).render ≠ queryMark := by
  intro same
  have member : '?' ∈ (value word).render.toList := by rw [same]; decide
  exact absurd (isWritable_render_value word '?' member) (by decide)

end Target

private theorem Interpretation.target_standard_of_render {wording : Wording} {target : Target}
    (written : wording.trimmedTarget = target.render)
    (notLeast : target ≠ .value Int64.minValue) : standard.target wording = .ok target := by
  unfold Interpretation.target
  rw [written]
  cases target with
  | query => exact if_pos rfl
  | value word =>
      have evaluated : standard.value (Target.value word).render = .ok word :=
        Arithmetic.evaluate_render fun least => notLeast (congrArg Target.value least)
      rw [if_neg (Target.render_value_ne_queryMark word), evaluated]
      rfl

/-! ## Rolls -/

def Roll.wording (roll : Roll) : Wording :=
  { formula := roll.formula.render
    relation := (roll.check.map fun check => check.relation.symbol).getD ""
    target := (roll.check.map fun check => check.target.render).getD "" }

theorem Wording.ofInput_render (roll : Roll) : ofInput roll.render = roll.wording := by
  have before : ∀ character ∈ roll.formula.render.toList, isComparison character = false := by
    intro character member
    rw [Formula.render, String.toList_ofList] at member
    exact (Formula.isWritable_written roll.formula).isComparison_eq member
  obtain ⟨formula, _ | ⟨relation, target⟩⟩ := roll
  · exact ofInput_of_formula before
  · apply Divides.ofInput_eq
    constructor
    case whole => rfl
    case formula => exact before
    case relation => exact relation.isComparison_symbol
    case target =>
      intro character first
      exact target.isComparison_render character (List.mem_of_mem_head? first)
    case bare =>
      intro empty
      exact absurd empty relation.symbol_ne_empty

theorem Roll.folding_wording (roll : Roll) (foldsCase : Bool) :
    roll.wording.folding foldsCase = roll.wording := by
  unfold Wording.folding
  split
  next =>
    rw [Wording.folded, wording, Formula.map_toUpper_render]
  next => rfl

namespace Roll

variable {roll : Roll}

theorem hasCheck_wording_of_none (unchecked : roll.check = none) :
    roll.wording.hasCheck = false := by
  rw [Wording.hasCheck, wording, unchecked]
  rfl

variable {check : Check}

theorem relation_wording (checked : roll.check = some check) :
    roll.wording.relation = check.relation.symbol := by
  rw [wording, checked]
  rfl

theorem trimmedTarget_wording (checked : roll.check = some check) :
    roll.wording.trimmedTarget = check.target.render := by
  rw [Wording.trimmedTarget, wording, checked]
  change String.ofList (trimmed check.target.render.toList) = _
  rw [trimmed_eq_self check.target.isBlank_render, String.ofList_toList]

theorem hasCheck_wording (checked : roll.check = some check) :
    roll.wording.hasCheck = true := by
  rw [Wording.hasCheck, trimmedTarget_wording checked, relation_wording checked]
  simp [check.relation.symbol_ne_empty, check.target.render_ne_empty]

theorem check?_wording (expressible : ∀ check, roll.check = some check →
      check.target ≠ .value Int64.minValue) (position : Nat) :
    Interpretation.standard.check? roll.wording = roll.check ∧
      Interpretation.standard.checkDiagnostics roll.wording position = [] := by
  unfold Interpretation.check? Interpretation.checkDiagnostics
  cases checked : roll.check with
  | none =>
      rw [hasCheck_wording_of_none checked]
      exact ⟨rfl, rfl⟩
  | some check =>
      have relation : Interpretation.standard.relation? roll.wording.relation =
          some check.relation := by
        rw [relation_wording checked]
        exact check.relation.ofText?_symbol
      have target := Interpretation.target_standard_of_render
        (trimmedTarget_wording checked) (expressible check checked)
      rw [hasCheck_wording checked, relation, target]
      exact ⟨rfl, rfl⟩

end Roll

/-- A roll whose formula is canonical is read from what is written for it, and
nothing is diagnosed. -/
theorem Reader.read_render (options : Options) {roll : Roll}
    (canonical : roll.formula.IsCanonical)
    (expressible : ∀ check, roll.check = some check → check.target ≠ .value Int64.minValue) :
    (standard options).read roll.render = ⟨roll, []⟩ := by
  have divided : (standard options).wording roll.render = roll.wording := by
    rw [wording, Wording.ofInput_render, Roll.folding_wording]
  have tokens : (standard options).tokens roll.render = Token.scan roll.formula.render := by
    rw [Reader.tokens, divided]
    rfl
  have check := Roll.check?_wording expressible (Token.scan roll.formula.render).length
  rw [read_eq, reading, divided, tokens, Reading.ofTokens_scan_render canonical]
  change (⟨⟨roll.formula, Interpretation.standard.check? roll.wording⟩,
    Interpretation.standard.checkDiagnostics roll.wording _⟩ : Outcome) = _
  rw [check.1, check.2]

/-- Every roll that was read from some input is read again from what is written
for it, whether case is folded or not. -/
theorem Reader.read_render_read (first second : Options) (input : String)
    (expressible : ∀ check, ((standard first).read input).roll.check = some check →
      check.target ≠ .value Int64.minValue) :
    (standard second).read ((standard first).read input).roll.render =
      ⟨((standard first).read input).roll, []⟩ := by
  refine read_render second ?_ expressible
  rw [read_eq]
  exact Reading.formula_ofTokens_isCanonical _

theorem Reader.read_render_read_recovered :
    let roll := ((standard ⟨.bestEffort, true⟩).read "s3--x/-2d6r+-4 >= 1-6").roll
    roll.check = some ⟨.greaterOrEqual, .value (-5)⟩ ∧
      (standard ⟨.strict, false⟩).read roll.render = ⟨roll, []⟩ := by
  have checked : ((standard ⟨.bestEffort, true⟩).read "s3--x/-2d6r+-4 >= 1-6").roll.check =
      some ⟨.greaterOrEqual, .value (-5)⟩ := by decide +kernel
  refine ⟨checked, read_render_read ⟨.bestEffort, true⟩ ⟨.strict, false⟩ _ ?_⟩
  intro check same
  rw [checked] at same
  cases same
  decide

end DiceLanguage
