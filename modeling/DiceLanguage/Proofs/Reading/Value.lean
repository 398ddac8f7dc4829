import DiceLanguage.Proofs.Formula.Value
import DiceLanguage.Proofs.Reading.Canonical
import DiceLanguage.Proofs.Reading.Sentences
import DiceLanguage.Reader.Equations

/-!
# Values of what is read

A formula that is read stands for the same integer as the one that its tokens
spell, whatever dice and quotients are worth, and no literal is wrapped on the
way.
-/

set_option autoImplicit false

namespace DiceLanguage

open Formula

/-! ## Sentences -/

private theorem IsFactor.isTurnable {formula : Formula} (factor : formula.IsFactor) :
    formula.IsTurnable :=
  fun _ literal => (IsProduct.factor factor).ne_least literal

private theorem SpellsSigned.isFactor_folded {tokens : List Token} {formula : Formula}
    (spelled : SpellsSigned tokens formula) :
    formula.folded.IsFactor ∧ formula.folded.negate.IsFactor := by
  induction spelled with
  | term spelled =>
      obtain ⟨term, rfl, nonneg⟩ := spelled.exists_term
      rw [Term.folded_formula]
      exact ⟨nonneg.isFactor, nonneg.isFactor_negate⟩
  | plus _ _ ih => exact ih
  | minus _ spelled ih =>
      simp only [folded, spelled.negate_negate_folded]
      exact ⟨ih.2, ih.1⟩

theorem SpellsProduct.isTurnable_folded {tokens : List Token} {formula : Formula}
    (spelled : SpellsProduct tokens formula) : formula.folded.IsTurnable := by
  cases spelled with
  | signed spelled => exact IsFactor.isTurnable spelled.isFactor_folded.1
  | times => simp [folded, IsTurnable]
  | divided => simp [folded, IsTurnable]
  | rounded => simp [folded, IsTurnable]

variable (valuation : Valuation) {tokens : List Token} {formula : Formula}

private theorem SpellsSigned.value_folded (spelled : SpellsSigned tokens formula) :
    formula.folded.value valuation = formula.value valuation := by
  induction spelled with
  | term spelled =>
      obtain ⟨term, rfl, _⟩ := spelled.exists_term
      rw [Term.folded_formula]
  | plus _ _ ih => exact ih
  | minus _ spelled ih =>
      rw [folded, value_negate valuation (IsFactor.isTurnable spelled.isFactor_folded.1), ih]
      rfl

private theorem SpellsProduct.value_folded (spelled : SpellsProduct tokens formula) :
    formula.folded.value valuation = formula.value valuation := by
  induction spelled with
  | signed spelled => exact spelled.value_folded valuation
  | times _ _ right ih =>
      rw [folded, join_multiply, value, value, ih, right.value_folded valuation]
  | divided _ _ right ih => rw [folded, value, value, ih, right.value_folded valuation]
  | rounded _ _ right _ ih => rw [folded, value, value, ih, right.value_folded valuation]

private theorem SpellsSum.value_folded (spelled : SpellsSum tokens formula) :
    formula.folded.value valuation = formula.value valuation := by
  induction spelled with
  | product spelled => exact spelled.value_folded valuation
  | joined _ _ right ih =>
      rw [folded, value_join valuation right.isTurnable_folded, ih,
        right.value_folded valuation, value]

theorem Spells.value_folded (spelled : Spells tokens formula) :
    formula.folded.value valuation = formula.value valuation := by
  cases spelled with
  | plain spelled => exact spelled.value_folded valuation
  | secret _ spelled => exact spelled.value_folded valuation

/-! ## Negated literals -/

namespace Reading

/-- The literals that are negated when the tokens read so far are made a
formula: the last term, after an odd number of minus signs, and the last
product, when it is a negative literal that joins a sum. -/
def Whole.negatedLiterals (whole : Whole) : List Int64 :=
  (match whole with
    | .plain pending term => if pending.negated then term.formula.literal?.toList else []
    | .rounded .. => []) ++
  (match whole.sum with
    | none => []
    | some _ => whole.product.literal?.toList.filter (· < 0))

def Visits (tokens : List Token) (stage : Stage) : Prop :=
  ∃ before after progress,
    (if isSecret tokens then tokens.tail else tokens) = before ++ after ∧
    before.foldlM Progress.take? (.initial (if isSecret tokens then 1 else 0)) = some progress ∧
    progress.stage = stage

private theorem Progress.stage_isCanonical_of_takes {progress next : Progress} {tokens : List Token}
    (canonical : progress.stage.IsCanonical)
    (taken : tokens.foldlM Progress.take? progress = some next) : next.stage.IsCanonical := by
  induction tokens generalizing progress with
  | nil =>
      cases taken
      exact canonical
  | cons token rest ih =>
      simp only [List.foldlM_cons, Option.bind_eq_bind, Option.bind_eq_some_iff] at taken
      obtain ⟨middle, first, others⟩ := taken
      exact ih (stage_isCanonical_of_take? canonical first) others

private theorem Visits.isCanonical {stage : Stage} (visits : Visits tokens stage) :
    stage.IsCanonical := by
  obtain ⟨before, after, progress, _, taken, rfl⟩ := visits
  exact Progress.stage_isCanonical_of_takes (Progress.stage_initial_isCanonical _) taken

private theorem eq_number_of_mem_literal? {formula : Formula} {literal : Int64}
    (member : literal ∈ formula.literal?.toList) : formula = .number literal := by
  cases formula <;> simp_all [literal?]

private theorem Whole.IsCanonical.ne_least_of_mem {whole : Whole} (canonical : whole.IsCanonical)
    {literal : Int64} (member : literal ∈ whole.negatedLiterals) : literal ≠ Int64.minValue := by
  rcases List.mem_append.mp member with term | product
  · cases whole with
    | rounded => cases term
    | plain pending term' =>
        simp only at term
        split at term
        next =>
          exact (IsProduct.factor canonical.2.isFactor).ne_least (eq_number_of_mem_literal? term)
        next => cases term
  · split at product
    next => cases product
    next =>
      have stands := eq_number_of_mem_literal? (List.mem_filter.mp product).1
      exact canonical.product.ne_least stands

end Reading

/-- A formula that is read without diagnoses stands for the integer of its
unfolded form, and every negation of a literal on the way gives its integer
the other sign. -/
theorem Reader.value_formula_read (reader : Reader) (input : String)
    (clean : (reader.reading input).diagnostics (reader.tokens input) = []) :
    (∃ unfolded, Spells (reader.tokens input) unfolded) ∧
    (∀ unfolded, Spells (reader.tokens input) unfolded → ∀ valuation,
      (reader.read input).roll.formula.value valuation = unfolded.value valuation) ∧
    ∀ whole, Reading.Visits (reader.tokens input) (.whole whole) →
      ∀ literal ∈ whole.negatedLiterals, (-literal).toInt = -literal.toInt := by
  refine ⟨Reading.exists_spells_iff.mpr clean, ?_, ?_⟩
  · intro unfolded spelled valuation
    have folded : (reader.read input).roll.formula = unfolded.folded := by
      rw [reader.read_eq, reading, Reading.ofTokens_of_spells spelled]
    rw [folded, spelled.value_folded valuation]
  · intro whole visits literal member
    have canonical : whole.IsCanonical := visits.isCanonical
    exact toInt_neg_of_ne_least (canonical.ne_least_of_mem member)

theorem Reader.value_formula_read_secret :
    ((standard .standard).reading "S3--2D6/-4U").diagnostics
        ((standard .standard).tokens "S3--2D6/-4U") = [] ∧
      ∀ unfolded, Spells ((standard .standard).tokens "S3--2D6/-4U") unfolded → ∀ valuation,
        ((standard .standard).read "S3--2D6/-4U").roll.formula.value valuation =
          unfolded.value valuation := by
  have clean : ((standard .standard).reading "S3--2D6/-4U").diagnostics
      ((standard .standard).tokens "S3--2D6/-4U") = [] := by decide +kernel
  exact ⟨clean, (value_formula_read (standard .standard) "S3--2D6/-4U" clean).2.1⟩

end DiceLanguage
