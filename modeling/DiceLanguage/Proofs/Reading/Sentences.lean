import DiceLanguage.Proofs.Formula.Canonical
import DiceLanguage.Proofs.Reading.Beginnings

/-!
# Readings of sentences

Tokens that spell a formula are read as its folded form with nothing to
diagnose, and no other tokens are read so.
-/

set_option autoImplicit false

namespace DiceLanguage

/-! ## Sentences are accepted -/

private theorem Term.negate_negate_formula (term : Term) :
    term.formula.negate.negate = term.formula := by
  cases term with
  | number value => simp [formula]
  | dice times sides => rfl
  | criticalDice times sides critical => rfl

theorem Term.folded_formula (term : Term) : term.formula.folded = term.formula := by
  cases term <;> rfl

theorem SpellsTerm.exists_term {tokens : List Token} {formula : Formula}
    (spelled : SpellsTerm tokens formula) :
    ∃ term : Term, formula = term.formula ∧ term.IsNonnegative := by
  cases spelled with
  | number only => exact ⟨.number _, rfl, only.nonneg⟩
  | dice first _ second => exact ⟨.dice _ _, rfl, first.nonneg, second.nonneg⟩
  | criticalDice first _ second _ third =>
      exact ⟨.criticalDice _ _ _, rfl, first.nonneg, second.nonneg, third.nonneg⟩

/-- Signs leave nothing of an operand but the term itself or its negation. -/
theorem SpellsSigned.negate_negate_folded {tokens : List Token} {formula : Formula}
    (spelled : SpellsSigned tokens formula) : formula.folded.negate.negate = formula.folded := by
  induction spelled with
  | term spelled =>
      obtain ⟨term, rfl, _⟩ := spelled.exists_term
      rw [Term.folded_formula, Term.negate_negate_formula]
  | plus _ _ ih => exact ih
  | minus _ _ ih =>
      simp only [Formula.folded]
      rw [ih]

namespace Reading

@[simp] theorem Whole.sum_plain (pending : Pending Formula) (term : Term) :
    (plain pending term).sum = pending.sum := rfl

@[simp] theorem Whole.product_plain (pending : Pending Formula) (term : Term) :
    (plain pending term).product = pending.product term none := rfl

@[simp] theorem Whole.sum_rounded (sum : Option (Formula × Sign)) (product : Formula) :
    (rounded sum product).sum = sum := rfl

@[simp] theorem Whole.product_rounded (sum : Option (Formula × Sign)) (product : Formula) :
    (rounded sum product).product = product := rfl

theorem accept?_whole (whole : Whole) (token : Token) :
    (Stage.whole whole).accept? token = whole.extend? token.kind := rfl

theorem accept?_number {token : Token} {value : Int64} (denoted : token.Denotes value)
    (slot : Slot) :
    (Stage.awaiting slot).accept? token = some (.whole (slot.fill value)) := by
  simp [Stage.accept?, Token.number?_eq_some_iff.mpr denoted, denoted.1, TokenKind.sign?]

theorem accept?_sign {token : Token} {sign : Sign} (signs : token.kind.sign? = some sign)
    (pending : Pending Formula) :
    (Stage.awaiting (.operand pending)).accept? token =
      some (.awaiting (.operand (pending.signed sign))) := by
  simp [Stage.accept?, signs, Slot.signed?]

private theorem accepts_term {tokens : List Token} {term : Term}
    (spelled : SpellsTerm tokens term.formula) (pending : Pending Formula) :
    tokens.foldlM Stage.accept? (.awaiting (.operand pending)) =
      some (.whole (.plain pending term)) := by
  generalize named : term.formula = formula at spelled
  cases spelled with
  | number denoted =>
      cases term <;> cases named
      simp [accept?_number denoted, Slot.fill]
  | dice first die second =>
      cases term <;> cases named
      simp [accept?_number first, accept?_number second, Slot.fill, accept?_whole,
        Whole.extend?, Whole.sides?, die]
  | criticalDice first die second mark third =>
      cases term <;> cases named
      simp [accept?_number first, accept?_number second, accept?_number third, Slot.fill,
        accept?_whole, Whole.extend?, Whole.sides?, Whole.critical?, die, mark]

private theorem accepts_signed {tokens : List Token} {formula : Formula}
    (spelled : SpellsSigned tokens formula) (pending : Pending Formula) :
    ∃ signed term,
      tokens.foldlM Stage.accept? (.awaiting (.operand pending)) =
        some (.whole (.plain signed term)) ∧
      signed.sum = pending.sum ∧ signed.factor = pending.factor ∧
      signed.operand term =
        if pending.negated then formula.folded.negate else formula.folded := by
  -- Each minus turns what is pending, so the statement is for any number of signs before.
  induction spelled generalizing pending with
  | term spelled =>
      obtain ⟨term, rfl, _⟩ := spelled.exists_term
      refine ⟨pending, term, accepts_term spelled pending, rfl, rfl, ?_⟩
      simp only [Pending.operand, Term.folded_formula]
  | plus kind _ ih =>
      obtain ⟨signed, term, accepted, sum, factor, operand⟩ := ih pending
      refine ⟨signed, term, ?_, sum, factor, operand⟩
      rw [List.foldlM_cons, accept?_sign (show _ = some Sign.plus by rw [kind]; rfl)]
      exact accepted
  | minus kind spelled ih =>
      obtain ⟨signed, term, accepted, sum, factor, operand⟩ := ih (pending.signed .minus)
      refine ⟨signed, term, ?_, sum, factor, ?_⟩
      · rw [List.foldlM_cons, accept?_sign (show _ = some Sign.minus by rw [kind]; rfl)]
        exact accepted
      · rw [operand]
        simp only [Pending.signed, Formula.folded]
        by_cases negated : pending.negated = true
        · simp [negated, spelled.negate_negate_folded]
        · simp [negated]

/-- A factor with what comes before it. The signs in it are its own. -/
private theorem accepts_factor {tokens : List Token} {formula : Formula}
    (spelled : SpellsSigned tokens formula) (sum : Option (Formula × Sign)) (left : Formula)
    (scaling : Scaling) :
    ∃ signed term,
      tokens.foldlM Stage.accept? (.awaiting (.operand (.ofTerm sum left scaling))) =
        some (.whole (.plain signed term)) ∧
      signed.sum = sum ∧ signed.factor = some (left, scaling) ∧
      signed.operand term = formula.folded := by
  obtain ⟨signed, term, accepted, sums, factor, operand⟩ :=
    accepts_signed spelled (.ofTerm sum left scaling)
  rw [Pending.ofTerm, if_neg Bool.false_ne_true] at operand
  exact ⟨signed, term, accepted, sums, factor, operand⟩

private theorem accept?_rounding {mark : Token} {rounding : Rounding}
    (marks : mark.kind.rounding? = some rounding) {pending : Pending Formula} {left : Formula}
    (factor : pending.factor = some (left, .over)) (term : Term) :
    (Stage.whole (.plain pending term)).accept? mark =
      some (.whole (.rounded pending.sum (pending.product term (some rounding)))) := by
  cases kind : mark.kind <;>
    simp_all [TokenKind.rounding?, accept?_whole, Whole.extend?, Whole.rounded?]

theorem accept?_joining {mark : Token} {sign : Sign} (marks : mark.kind.sign? = some sign)
    (whole : Whole) :
    (Stage.whole whole).accept? mark =
      some (.awaiting (.operand (.ofSum whole.formula sign))) := by
  cases kind : mark.kind <;> simp_all [TokenKind.sign?, accept?_whole, Whole.extend?]

/-- What a product joins its sum by, and the product itself. -/
private theorem accepts_product {tokens : List Token} {formula : Formula}
    (spelled : SpellsProduct tokens formula) (sum : Option (Formula × Sign)) :
    ∃ whole,
      tokens.foldlM Stage.accept? (.awaiting (.operand ⟨sum, none, false⟩)) =
        some (.whole whole) ∧
      whole.sum = sum ∧ whole.product = formula.folded := by
  induction spelled with
  | signed spelled =>
      obtain ⟨signed, term, accepted, sums, factor, operand⟩ :=
        accepts_signed spelled ⟨sum, none, false⟩
      refine ⟨.plain signed term, accepted, sums, ?_⟩
      simpa [Pending.product, factor] using operand
  | times _ star right ih =>
      obtain ⟨whole, accepted, sums, product⟩ := ih
      obtain ⟨signed, term, others, sums', factor, operand⟩ :=
        accepts_factor right whole.sum whole.product .times
      refine ⟨.plain signed term, ?_, sums'.trans sums, ?_⟩
      · simp [List.foldlM_append, accepted, accept?_whole, Whole.extend?, star, others]
      · simp [Pending.product, factor, operand, product, Formula.folded]
  | divided _ slash right ih =>
      obtain ⟨whole, accepted, sums, product⟩ := ih
      obtain ⟨signed, term, others, sums', factor, operand⟩ :=
        accepts_factor right whole.sum whole.product .over
      refine ⟨.plain signed term, ?_, sums'.trans sums, ?_⟩
      · simp [List.foldlM_append, accepted, accept?_whole, Whole.extend?, slash, others]
      · simp [Pending.product, factor, operand, product, Formula.folded]
  | @rounded _ _ _ _ _ _ rounding _ slash right marks ih =>
      obtain ⟨whole, accepted, sums, product⟩ := ih
      obtain ⟨signed, term, others, sums', factor, operand⟩ :=
        accepts_factor right whole.sum whole.product .over
      have rounds := accept?_rounding marks factor term
      rw [accept?_whole] at rounds
      refine ⟨.rounded signed.sum (signed.product term (some rounding)), ?_,
        sums'.trans sums, ?_⟩
      · have divides : whole.extend? .slash =
            some (.awaiting (.operand (.ofTerm whole.sum whole.product .over))) := rfl
        simp [List.foldlM_append, accepted, accept?_whole, divides, slash, others, rounds]
      · simp [Pending.product, factor, operand, product, Formula.folded]

theorem accepts_sum {tokens : List Token} {formula : Formula}
    (spelled : SpellsSum tokens formula) :
    ∃ whole,
      tokens.foldlM Stage.accept? (.awaiting (.operand .nothing)) = some (.whole whole) ∧
      whole.formula = formula.folded := by
  induction spelled with
  | product spelled =>
      obtain ⟨whole, accepted, sum, product⟩ := accepts_product spelled none
      refine ⟨whole, accepted, ?_⟩
      simp [Whole.formula, sum, product, Formula.ofLastProduct]
  | @joined _ mark _ _ sign _ _ marks right ih =>
      obtain ⟨whole, accepted, formula⟩ := ih
      -- What was a whole sum is the left operand from here on.
      obtain ⟨next, others, sum, product⟩ :=
        accepts_product right (some (whole.formula, sign))
      have joins := accept?_joining marks whole
      refine ⟨next, ?_, ?_⟩
      · simp only [List.foldlM_append, accepted, List.foldlM_cons, joins, Option.bind_eq_bind,
          Option.bind_some]
        exact others
      · rw [Whole.formula, sum, product]
        simp only [Formula.ofLastProduct, formula, Formula.folded]

/-! ## Readings of all tokens -/

theorem isSecret_of_spellsSum {tokens : List Token} {formula : Formula}
    (spelled : SpellsSum tokens formula) : isSecret tokens = false := by
  obtain ⟨whole, accepted, _⟩ := accepts_sum spelled
  exact isSecret_of_accepts accepted

theorem Opens.ofTokens_of_spellsSum {opening tokens : List Token} {formula : Formula}
    (opens : Opens opening tokens) (spelled : SpellsSum tokens formula) :
    ofTokens (opening ++ tokens) =
      ⟨formula.folded, [], opening.length + tokens.length, []⟩ := by
  obtain ⟨whole, accepted, folded⟩ := accepts_sum spelled
  rw [opens.ofTokens_of_accepts accepted, folded]

/-- A formula that is spelled is read in its folded form. -/
theorem ofTokens_of_spells {tokens : List Token} {formula : Formula}
    (spelled : Spells tokens formula) :
    ofTokens tokens = ⟨formula.folded, [], tokens.length, []⟩ := by
  cases spelled with
  | plain spelled =>
      have opens : Opens [] tokens := .plain (isSecret_of_spellsSum spelled)
      simpa using opens.ofTokens_of_spellsSum spelled
  | secret marked spelled =>
      simpa [Nat.add_comm] using (Opens.secret marked).ofTokens_of_spellsSum spelled

/-- A reading has nothing to diagnose exactly when its tokens spell a formula. -/
theorem exists_spells_iff {tokens : List Token} :
    (∃ formula, Spells tokens formula) ↔ (ofTokens tokens).diagnostics tokens = [] := by
  constructor
  · rintro ⟨formula, spelled⟩
    rw [diagnostics_eq_nil_iff, ofTokens_of_spells spelled]
    exact ⟨rfl, rfl⟩
  · intro clean
    obtain ⟨opening, rest, rfl, opens, _⟩ := exists_opens tokens
    obtain ⟨whole, accepted⟩ := opens.exists_accepts clean
    obtain ⟨formula, spelled⟩ := exists_spellsSum_of_accepts accepted
    cases opens with
    | plain => exact ⟨formula, .plain spelled⟩
    | secret marked => exact ⟨formula, .secret marked spelled⟩

end Reading

end DiceLanguage
