import DiceLanguage.Proofs.Rendering
import DiceLanguage.Proofs.Resolution

/-!
# Targets that are read back

The text of a target has the value that the target was given, and a roll is
checked against the same target when its own text is read. Only the least word
is a target that can be given but not be read back.
-/

set_option autoImplicit false

namespace DiceLanguage

private theorem Interpretation.target_standard_wording {roll : Roll} {relation : Relation}
    {word : Int64} (checked : roll.check = some ⟨relation, .value word⟩) :
    standard.target roll.wording = (Arithmetic.evaluate (Target.value word).render).map .value := by
  rw [target, Roll.trimmedTarget_wording checked, if_neg (Target.render_value_ne_queryMark word)]
  rfl

private theorem Roll.check?_wording_iff {roll : Roll} {relation : Relation} {word : Int64}
    (checked : roll.check = some ⟨relation, .value word⟩) :
    Interpretation.standard.check? roll.wording = roll.check ↔ word ≠ Int64.minValue := by
  have known : Interpretation.standard.relation? roll.wording.relation = some relation := by
    rw [relation_wording checked]
    exact relation.ofText?_symbol
  have value : (Arithmetic.evaluate (Target.value word).render).map Target.value =
      .ok (.value word) ↔ Arithmetic.evaluate (Target.value word).render = .ok word := by
    cases Arithmetic.evaluate (Target.value word).render <;> simp [Except.map]
  rw [checked, Interpretation.check?_eq_some_iff, hasCheck_wording checked,
    Interpretation.target_standard_wording checked, value]
  simp only [known, true_and]
  exact Arithmetic.evaluate_render_eq_ok_iff

/-- A value that some text has is read back from what is written for it, by
itself and as the target of any roll, unless it is the least word. -/
theorem Reader.target_read_back {text : String} {word : Int64}
    (evaluated : Arithmetic.evaluate text = .ok word) (options : Options) (formula : Formula)
    (relation : Relation) :
    (Arithmetic.evaluate (Target.value word).render = Arithmetic.evaluate text ↔
        word ≠ Int64.minValue) ∧
      (((standard options).read (Roll.mk formula (some ⟨relation, .value word⟩)).render).roll.check =
          some ⟨relation, .value word⟩ ↔
        word ≠ Int64.minValue) := by
  constructor
  · rw [evaluated]
    exact Arithmetic.evaluate_render_eq_ok_iff
  · have divided : (standard options).wording
        (Roll.mk formula (some ⟨relation, .value word⟩)).render =
          (Roll.mk formula (some ⟨relation, .value word⟩)).wording := by
      rw [wording, Wording.ofInput_render, Roll.folding_wording]
    rw [read_eq, divided]
    exact Roll.check?_wording_iff rfl

theorem Reader.target_read_back_negative :
    Arithmetic.evaluate "-9223372036854775806-1" = .ok (-9223372036854775807) ∧
      (-9223372036854775807 : Int64) ≠ Int64.minValue ∧
      Arithmetic.evaluate (Target.value (-9223372036854775807)).render =
        Arithmetic.evaluate "-9223372036854775806-1" ∧
      ((standard .strict).read (Roll.mk (.number 1)
          (some ⟨.unequal, .value (-9223372036854775807)⟩)).render).roll.check =
        some ⟨.unequal, .value (-9223372036854775807)⟩ := by
  have evaluated :
      Arithmetic.evaluate "-9223372036854775806-1" = .ok (-9223372036854775807) := by rfl
  have notLeast : (-9223372036854775807 : Int64) ≠ Int64.minValue := by decide
  obtain ⟨value, check⟩ := target_read_back evaluated .strict (.number 1) .unequal
  exact ⟨evaluated, notLeast, value.mpr notLeast, check.mpr notLeast⟩

/-- A sum may be the least word, but the literal in its text is no word. -/
theorem Reader.least_target_not_read_back :
    let read := (standard .standard).read
    let least : Check := ⟨.equal, .value Int64.minValue⟩
    Arithmetic.evaluate "-9223372036854775807-1" = .ok Int64.minValue ∧
      Arithmetic.evaluate least.target.render = .error .overflow ∧
      read "1=-9223372036854775807-1" = ⟨⟨.number 1, some least⟩, []⟩ ∧
      (read (Roll.mk (.number 1) (some least)).render).roll.check = none := by
  intro read least
  have value : Arithmetic.evaluate "-9223372036854775807-1" = .ok Int64.minValue := by rfl
  refine ⟨value, Arithmetic.evaluate_render_least, ?_, ?_⟩
  · decide +kernel
  · decide +kernel

end DiceLanguage
