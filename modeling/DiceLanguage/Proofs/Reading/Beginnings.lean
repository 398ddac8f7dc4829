import DiceLanguage.Proofs.Reading.Moves

/-!
# Beginnings of sentences

The tokens that lead to a stage are always the beginning of a sentence, cut at
the place in the grammar that the stage stands for.
-/

set_option autoImplicit false

namespace DiceLanguage

/-- Tokens after which a product must stand. -/
inductive OpensProduct : List Token → Prop where
  | first : OpensProduct []
  | joined {tokens formula mark sign} :
      SpellsSum tokens formula → mark.kind.sign? = some sign → OpensProduct (tokens ++ [mark])

/-- Tokens after which an operand must stand, signs before it included, and
what joins the operand to its product. -/
inductive OpensOperand : Option Scaling → List Token → Prop where
  | first {opening} : OpensProduct opening → OpensOperand none opening
  | times {opening tokens formula star} :
      OpensProduct opening → SpellsProduct tokens formula → star.kind = .star →
      OpensOperand (some .times) (opening ++ tokens ++ [star])
  | divided {opening tokens formula slash} :
      OpensProduct opening → SpellsProduct tokens formula → slash.kind = .slash →
      OpensOperand (some .over) (opening ++ tokens ++ [slash])
  | signed {scaling opening mark sign} :
      OpensOperand scaling opening → mark.kind.sign? = some sign →
      OpensOperand scaling (opening ++ [mark])

private theorem OpensProduct.closed {opening tokens : List Token} {product : Formula}
    (opens : OpensProduct opening) (spelled : SpellsProduct tokens product) :
    ∃ formula, SpellsSum (opening ++ tokens) formula := by
  cases opens with
  | first => exact ⟨_, .product spelled⟩
  | joined left marks =>
      rw [List.append_assoc]
      exact ⟨_, .joined left marks spelled⟩

theorem SpellsSigned.sign {mark : Token} {sign : Sign} {tokens : List Token} {formula : Formula}
    (marks : mark.kind.sign? = some sign) (spelled : SpellsSigned tokens formula) :
    ∃ signed, SpellsSigned (mark :: tokens) signed := by
  cases kind : mark.kind with
  | plus => exact ⟨_, .plus kind spelled⟩
  | minus => exact ⟨_, .minus kind spelled⟩
  | _ => simp [kind, TokenKind.sign?] at marks

/-- An operand completes the product that it stands in. -/
private theorem OpensOperand.closed {scaling : Option Scaling} {opening tokens : List Token}
    {operand : Formula} (opens : OpensOperand scaling opening)
    (spelled : SpellsSigned tokens operand) :
    ∃ sums product formula, opening ++ tokens = sums ++ product ∧
      OpensProduct sums ∧ SpellsProduct product formula := by
  induction opens generalizing tokens operand with
  | first opens => exact ⟨_, tokens, _, rfl, opens, .signed spelled⟩
  | times opens left star =>
      exact ⟨_, _, _, by simp [List.append_assoc], opens, .times left star spelled⟩
  | divided opens left slash =>
      exact ⟨_, _, _, by simp [List.append_assoc], opens, .divided left slash spelled⟩
  | signed _ marks ih =>
      obtain ⟨signed, spelled⟩ := spelled.sign marks
      rw [List.append_assoc]
      exact ih spelled

/-- A divisor with a rounding completes the product that it stands in. -/
private theorem OpensOperand.rounded {opening tokens : List Token} {divisor : Formula}
    {mark : Token} {rounding : Rounding} (opens : OpensOperand (some .over) opening)
    (spelled : SpellsSigned tokens divisor) (marks : mark.kind.rounding? = some rounding) :
    ∃ sums product formula, opening ++ tokens ++ [mark] = sums ++ product ∧
      OpensProduct sums ∧ SpellsProduct product formula := by
  generalize division : some Scaling.over = scaling at opens
  induction opens generalizing tokens divisor with
  | first => cases division
  | times => cases division
  | divided opens left slash =>
      exact ⟨_, _, _, by simp [List.append_assoc], opens, .rounded left slash spelled marks⟩
  | signed _ signs ih =>
      obtain ⟨signed, spelled⟩ := spelled.sign signs
      rw [List.append_assoc _ [_] tokens]
      exact ih spelled division

namespace Reading

inductive Leads : List Token → Stage → Prop where
  | operand {opening pending} :
      OpensOperand (pending.factor.map Prod.snd) opening →
      Leads opening (.awaiting (.operand pending))
  | sides {opening pending times die count} :
      OpensOperand (pending.factor.map Prod.snd) opening →
      Token.Denotes times count → die.kind = .die →
      Leads (opening ++ [times, die]) (.awaiting (.sides pending count))
  | critical {opening pending times die sides mark count size} :
      OpensOperand (pending.factor.map Prod.snd) opening →
      Token.Denotes times count → die.kind = .die → Token.Denotes sides size →
      mark.kind = .critical →
      Leads (opening ++ [times, die, sides, mark]) (.awaiting (.critical pending count size))
  | plain {opening pending tokens term} :
      OpensOperand (pending.factor.map Prod.snd) opening →
      SpellsTerm tokens (Term.formula term) →
      Leads (opening ++ tokens) (.whole (.plain pending term))
  | rounded {opening tokens formula sum product} :
      OpensProduct opening → SpellsProduct tokens formula →
      Leads (opening ++ tokens) (.whole (.rounded sum product))

variable {tokens : List Token} {token : Token} {next : Stage}

private theorem Leads.product {whole : Whole} (leads : Leads tokens (.whole whole)) :
    ∃ sums product formula, tokens = sums ++ product ∧
      OpensProduct sums ∧ SpellsProduct product formula := by
  cases leads with
  | plain opens spelled => exact opens.closed (.term spelled)
  | rounded opens spelled => exact ⟨_, _, _, rfl, opens, spelled⟩

private theorem Leads.sum {whole : Whole} (leads : Leads tokens (.whole whole)) :
    ∃ formula, SpellsSum tokens formula := by
  obtain ⟨sums, product, formula, rfl, opens, spelled⟩ := leads.product
  exact opens.closed spelled

private theorem Leads.moves {stage : Stage} (leads : Leads tokens stage)
    (moves : Stage.Moves token stage next) : Leads (tokens ++ [token]) next := by
  cases moves with
  | @signed _ sign marks =>
      cases leads with
      | operand opens =>
          apply Leads.operand
          cases sign <;> exact opens.signed marks
  | filled denoted =>
      cases leads with
      | operand opens => exact .plain opens (.number denoted)
      | sides opens first die =>
          rw [List.append_assoc]
          exact .plain opens (.dice first die denoted)
      | critical opens first die second mark =>
          rw [List.append_assoc]
          exact .plain opens (.criticalDice first die second mark denoted)
  | joined marks =>
      obtain ⟨formula, spelled⟩ := leads.sum
      exact .operand (.first (.joined spelled marks))
  | @scaled _ scaling scales =>
      obtain ⟨sums, product, formula, rfl, opens, spelled⟩ := leads.product
      match scaling, scales with
      | .times, star => exact .operand (.times opens spelled star)
      | .over, slash => exact .operand (.divided opens spelled slash)
  | sides die =>
      cases leads with
      | plain opens spelled =>
          cases spelled with
          | number denoted =>
              rw [List.append_assoc]
              exact .sides opens denoted die
  | critical mark =>
      cases leads with
      | plain opens spelled =>
          cases spelled with
          | dice first die second =>
              rw [List.append_assoc]
              exact .critical opens first die second mark
  | rounded marks factor =>
      cases leads with
      | plain opens spelled =>
          rw [factor] at opens
          obtain ⟨sums, product, formula, split, opens, spelled⟩ :=
            opens.rounded (.term spelled) marks
          rw [split]
          exact .rounded opens spelled

theorem Leads.accepts {stage : Stage} {rest : List Token} (leads : Leads tokens stage)
    (accepted : rest.foldlM Stage.accept? stage = some next) : Leads (tokens ++ rest) next := by
  induction rest generalizing tokens stage with
  | nil =>
      simp only [List.foldlM_nil, Option.pure_def, Option.some.injEq] at accepted
      simpa only [List.append_nil, accepted] using leads
  | cons token rest ih =>
      simp only [List.foldlM_cons, Option.bind_eq_bind, Option.bind_eq_some_iff] at accepted
      obtain ⟨middle, first, others⟩ := accepted
      rw [List.append_cons]
      exact ih (leads.moves (Stage.moves_of_accept? first)) others

/-- All tokens that lead to a whole formula spell one. -/
theorem exists_spellsSum_of_accepts {whole : Whole}
    (accepted : tokens.foldlM Stage.accept? (.awaiting (.operand .nothing)) =
      some (.whole whole)) : ∃ formula, SpellsSum tokens formula := by
  have start : Leads [] (.awaiting (.operand .nothing)) := .operand (.first .first)
  exact (start.accepts accepted).sum

end Reading

end DiceLanguage
