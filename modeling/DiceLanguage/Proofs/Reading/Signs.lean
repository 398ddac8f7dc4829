import DiceLanguage.Proofs.Reading.Moves
import DiceLanguage.Proofs.Reading.Sentences

/-!
# Signs before operands

Of the signs before an operand only the parity of the minus signs matters: two
of them, or a plus sign, may be written or left out wherever an operand begins.
A minus sign before a literal that is a term turns the sign that joins the term.
Edits move the tokens after them, so tokens are compared without their places.
Main statement: `Reading.ofTokens_of_signEdit`.
-/

set_option autoImplicit false

namespace DiceLanguage

def Sign.opposite : Sign → Sign
  | .plus => .minus
  | .minus => .plus

def TokenKind.introducesOperand : TokenKind → Bool
  | .plus | .minus | .star | .slash => true
  | _ => false

private theorem TokenKind.introducesOperand_of_sign? {kind : TokenKind} {sign : Sign}
    (signs : kind.sign? = some sign) : kind.introducesOperand = true := by
  cases kind <;> first | rfl | cases signs

private theorem TokenKind.introducesOperand_of_rounding? {kind : TokenKind} {rounding : Rounding}
    (rounds : kind.rounding? = some rounding) : kind.introducesOperand = false := by
  cases kind <;> first | rfl | cases rounds

def Token.unplaced (token : Token) : Token := { token with span := .empty 0 }

private theorem Formula.join_negated_literal (left : Formula) (sign : Sign) {value : Int64}
    (positive : 0 < value) :
    left.join sign.operator (.number (-value)) =
      left.join sign.opposite.operator (.number value) := by
  have nonnegative : ¬value < 0 := Int64.not_lt.mpr (Int64.le_of_lt positive)
  have negative : -value < 0 := by
    have turned := toInt_neg_of_ne_least (ne_least_of_nonneg (Int64.le_of_lt positive))
    rw [Int64.lt_iff_toInt_lt, Int64.toInt_zero] at positive
    rw [neg_iff_toInt]
    omega
  cases sign <;> simp [join, Sign.operator, Sign.opposite, Operator.isAdditive, Operator.flipped,
    negative, nonnegative]

@[simp] theorem Pending.signed_plus {α : Type} (pending : Pending α) :
    pending.signed .plus = pending := rfl

@[simp] theorem Pending.signed_minus_minus {α : Type} (pending : Pending α) :
    (pending.signed .minus).signed .minus = pending := by
  simp [signed]

namespace Reading

/-- An operand begins between two parts of some tokens: after a secret marker,
or where there is none at the start, and after a sign or `*` or `/`. -/
inductive BeginsOperand : List Token → List Token → Prop where
  | start {after} : isSecret after = false → BeginsOperand [] after
  | secret {marker after} : marker.kind = .secret → BeginsOperand [marker] after
  | mark {before mark after} :
      mark.kind.introducesOperand = true → BeginsOperand (before ++ [mark]) after

inductive SignEdit : List Token → List Token → Prop where
  | insertPlus {before after plus} :
      BeginsOperand before after → plus.kind = .plus →
      SignEdit (before ++ after) (before ++ plus :: after)
  | deletePlus {before after plus} :
      BeginsOperand before (plus :: after) → plus.kind = .plus →
      SignEdit (before ++ plus :: after) (before ++ after)
  | insertMinuses {before after first second} :
      BeginsOperand before after → first.kind = .minus → second.kind = .minus →
      SignEdit (before ++ after) (before ++ first :: second :: after)
  | deleteMinuses {before after first second} :
      BeginsOperand before (first :: second :: after) →
      first.kind = .minus → second.kind = .minus →
      SignEdit (before ++ first :: second :: after) (before ++ after)
  /-- The literal is a term of its own, and the sign before it joins the term to
  what stands to the left. -/
  | merge {before after joining minus merged literal sign value} :
      ¬BeginsOperand before (joining :: minus :: literal :: after) →
      joining.kind.sign? = some sign → minus.kind = .minus →
      merged.kind.sign? = some sign.opposite →
      Token.Denotes literal value → value ≠ 0 →
      (∀ next, after.head? = some next →
        next.kind ≠ .die ∧ next.kind ≠ .star ∧ next.kind ≠ .slash) →
      SignEdit (before ++ joining :: minus :: literal :: after) (before ++ merged :: literal :: after)

/-! ## Tokens that are read without a diagnosis -/

variable {opening inner before after later : List Token} {whole : Whole}

private theorem isSecret_of_sign? {mark : Token} {sign : Sign} (signs : mark.kind.sign? = some sign)
    (rest : List Token) : isSecret (mark :: rest) = false := by
  simp only [isSecret, decide_eq_false_iff_not]
  intro secret
  simp [secret, TokenKind.sign?] at signs

private theorem exists_accepts_of_clean (start : before = [] → isSecret after = false)
    (clean : (ofTokens (before ++ after)).diagnostics (before ++ after) = []) :
    ∃ opening inner whole, before = opening ++ inner ∧ Opens opening (inner ++ after) ∧
      (inner ++ after).foldlM Stage.accept? (.awaiting (.operand .nothing)) =
        some (.whole whole) ∧
      (ofTokens (before ++ after)).formula = whole.formula := by
  obtain ⟨opening, rest, split, opens, _⟩ := exists_opens (before ++ after)
  rw [split] at clean ⊢
  obtain ⟨whole, accepted⟩ := opens.exists_accepts clean
  have formula := congrArg Reading.formula (opens.ofTokens_of_accepts accepted)
  suffices cut : ∃ inner, before = opening ++ inner ∧ rest = inner ++ after by
    obtain ⟨inner, rfl, rfl⟩ := cut
    exact ⟨opening, inner, whole, rfl, opens, accepted, formula⟩
  cases opens with
  | plain => exact ⟨before, rfl, split.symm⟩
  | secret marked =>
      cases before with
      | nil =>
          have notSecret := start rfl
          rw [List.nil_append] at split
          simp [split, isSecret, marked] at notSecret
      | cons marker inner =>
          cases split
          exact ⟨inner, rfl, rfl⟩

/-! ## Places of tokens -/

private theorem accepts_unplaced (tokens : List Token) (stage : Stage) :
    (tokens.map Token.unplaced).foldlM Stage.accept? stage =
      tokens.foldlM Stage.accept? stage := by
  rw [List.foldlM_map]
  rfl

private theorem Opens.of_unplaced {other tokens shifted : List Token} (opens : Opens opening tokens)
    (same : other.map Token.unplaced = opening.map Token.unplaced)
    (notSecret : isSecret shifted = false) : Opens other shifted := by
  cases opens with
  | plain =>
      rw [List.map_eq_nil_iff.mp same]
      exact .plain notSecret
  | secret marked =>
      obtain ⟨marker, rfl, alike⟩ := List.map_eq_singleton_iff.mp same
      exact .secret ((congrArg Token.kind alike).trans marked)

private theorem ofTokens_of_unplaced {tokens shifted : List Token}
    (same : shifted.map Token.unplaced = tokens.map Token.unplaced)
    (clean : (ofTokens tokens).diagnostics tokens = []) :
    (ofTokens shifted).diagnostics shifted = [] ∧
      (ofTokens shifted).formula = (ofTokens tokens).formula := by
  obtain ⟨opening, rest, rfl, opens, _⟩ := exists_opens tokens
  obtain ⟨whole, accepted⟩ := opens.exists_accepts clean
  rw [List.map_append] at same
  obtain ⟨marker, sum, rfl, markers, sums⟩ := List.map_eq_append_iff.mp same
  have accepts : sum.foldlM Stage.accept? (.awaiting (.operand .nothing)) =
      some (.whole whole) := by
    rw [← accepts_unplaced, sums, accepts_unplaced, accepted]
  have opensSum := opens.of_unplaced markers (isSecret_of_accepts accepts)
  rw [opens.ofTokens_of_accepts accepted, diagnostics_eq_nil_iff,
    opensSum.ofTokens_of_accepts accepts]
  exact ⟨⟨rfl, rfl⟩, rfl⟩

/-! ## Stages where operands begin -/

private theorem Stage.Moves.introducesOperand_iff {token : Token} {stage next : Stage}
    (moves : Moves token stage next) :
    token.kind.introducesOperand = true ↔ ∃ pending, next = .awaiting (.operand pending) := by
  cases moves with
  | signed signs => simp [TokenKind.introducesOperand_of_sign? signs]
  | filled denoted => simp [denoted.1, TokenKind.introducesOperand]
  | joined signs => simp [TokenKind.introducesOperand_of_sign? signs]
  | @scaled _ scaling scales =>
      cases scaling <;> simp [scales, Scaling.kind, TokenKind.introducesOperand]
  | sides die => simp [die, TokenKind.introducesOperand]
  | critical mark => simp [mark, TokenKind.introducesOperand]
  | rounded rounds => simp [TokenKind.introducesOperand_of_rounding? rounds]

private theorem exists_operand_of_accept?_sign {mark : Token} {sign : Sign} {slot : Slot}
    {next : Stage} (signs : mark.kind.sign? = some sign)
    (accepted : (Stage.awaiting slot).accept? mark = some next) :
    ∃ pending, Stage.awaiting slot = .awaiting (.operand pending) := by
  cases Stage.moves_of_accept? accepted with
  | signed => exact ⟨_, rfl⟩
  | filled denoted => simp [denoted.1, TokenKind.sign?] at signs

private theorem last_of_beginsOperand {init : List Token} {last : Token}
    (opens : Opens opening (init ++ [last]))
    (begins : BeginsOperand (opening ++ (init ++ [last])) after) :
    last.kind.introducesOperand = true := by
  generalize split : opening ++ (init ++ [last]) = before at begins
  cases begins with
  | start => simp at split
  | secret marked =>
      cases opens with
      | plain notSecret =>
          rw [List.nil_append] at split
          simp [split, isSecret, marked] at notSecret
      | secret => simp at split
  | mark introduces =>
      rw [← List.append_assoc] at split
      have same : last = _ := List.singleton_inj.mp (List.append_inj_right' split rfl)
      rwa [same]

/-- The stage tells whether an operand begins after the tokens that lead to it. -/
theorem beginsOperand_iff {stage : Stage} (opens : Opens opening (inner ++ after))
    (accepted : inner.foldlM Stage.accept? (.awaiting (.operand .nothing)) = some stage) :
    BeginsOperand (opening ++ inner) after ↔
      ∃ pending, stage = .awaiting (.operand pending) := by
  have opensInner := opens.of_accepts accepted
  rcases List.eq_nil_or_concat inner with rfl | ⟨init, last, rfl⟩
  · cases accepted
    refine iff_of_true ?_ ⟨_, rfl⟩
    cases opens with
    | plain notSecret => exact .start notSecret
    | secret marked => exact .secret marked
  · simp only [List.concat_eq_append, List.foldlM_append, List.foldlM_cons, List.foldlM_nil,
      Option.bind_eq_bind, bind_pure, Option.bind_eq_some_iff] at accepted opensInner ⊢
    obtain ⟨middle, _, accepted⟩ := accepted
    rw [← (Stage.moves_of_accept? accepted).introducesOperand_iff]
    constructor
    · exact last_of_beginsOperand opensInner
    · intro introduces
      rw [← List.append_assoc]
      exact .mark introduces

private theorem isSecret_of_beginsOperand (begins : BeginsOperand before after) :
    before = [] → isSecret after = false := by
  intro nothing
  cases begins with
  | start notSecret => exact notSecret
  | secret => cases nothing
  | mark => simp at nothing

/-! ## Edits of signs -/

/-- Tokens may be replaced by others that lead the stage before them to the
same formula. -/
theorem ofTokens_replace (start : before = [] → isSecret after = false)
    (clean : (ofTokens (before ++ after)).diagnostics (before ++ after) = [])
    (replaces : ∀ opening inner stage whole, before = opening ++ inner →
      Opens opening (inner ++ after) →
      inner.foldlM Stage.accept? (.awaiting (.operand .nothing)) = some stage →
      after.foldlM Stage.accept? stage = some (.whole whole) →
      ∃ other, later.foldlM Stage.accept? stage = some (.whole other) ∧
        other.formula = whole.formula) :
    (ofTokens (before ++ later)).diagnostics (before ++ later) = [] ∧
      (ofTokens (before ++ later)).formula = (ofTokens (before ++ after)).formula := by
  obtain ⟨opening, inner, whole, rfl, opens, accepted, formula⟩ :=
    exists_accepts_of_clean start clean
  simp only [List.foldlM_append, Option.bind_eq_bind, Option.bind_eq_some_iff] at accepted
  obtain ⟨stage, first, others⟩ := accepted
  obtain ⟨other, instead, same⟩ := replaces opening inner stage whole rfl opens first others
  have accepts : (inner ++ later).foldlM Stage.accept? (.awaiting (.operand .nothing)) =
      some (.whole other) := by
    simp [List.foldlM_append, first, instead]
  rw [formula, diagnostics_eq_nil_iff, List.append_assoc,
    (opens.of_accepts accepts).ofTokens_of_accepts accepts]
  exact ⟨⟨rfl, rfl⟩, same⟩

/-- Where an operand begins, tokens may be replaced by others that lead any
stage in which an operand is awaited to the same stage. -/
theorem ofTokens_replace_operand (begins : BeginsOperand before after)
    (clean : (ofTokens (before ++ after)).diagnostics (before ++ after) = [])
    (same : ∀ pending,
      later.foldlM Stage.accept? (.awaiting (.operand pending)) =
        after.foldlM Stage.accept? (.awaiting (.operand pending))) :
    (ofTokens (before ++ later)).diagnostics (before ++ later) = [] ∧
      (ofTokens (before ++ later)).formula = (ofTokens (before ++ after)).formula := by
  refine ofTokens_replace (isSecret_of_beginsOperand begins) clean ?_
  rintro opening inner stage whole rfl opens first others
  obtain ⟨pending, rfl⟩ := (beginsOperand_iff opens first).mp begins
  exact ⟨whole, (same pending).trans others, rfl⟩

private theorem accepts_plus {plus : Token} (marked : plus.kind = .plus)
    (pending : Pending Formula) :
    (plus :: after).foldlM Stage.accept? (.awaiting (.operand pending)) =
      after.foldlM Stage.accept? (.awaiting (.operand pending)) := by
  have signs : plus.kind.sign? = some .plus := by rw [marked]; rfl
  simp [accept?_sign signs]

private theorem accepts_minuses {first second : Token} (firstMinus : first.kind = .minus)
    (secondMinus : second.kind = .minus) (pending : Pending Formula) :
    (first :: second :: after).foldlM Stage.accept? (.awaiting (.operand pending)) =
      after.foldlM Stage.accept? (.awaiting (.operand pending)) := by
  have firstSigns : first.kind.sign? = some .minus := by rw [firstMinus]; rfl
  have secondSigns : second.kind.sign? = some .minus := by rw [secondMinus]; rfl
  simp [accept?_sign firstSigns, accept?_sign secondSigns]

/-- A literal that a sum is joined to leads on by its formula alone, unless it
counts dice or begins a longer product. -/
private theorem extend?_literal {pending other : Pending Formula} {value number : Int64}
    (single : pending.factor = none) (otherSingle : other.factor = none)
    (formula : (Whole.plain pending (.number value)).formula =
      (Whole.plain other (.number number)).formula) {kind : TokenKind}
    (ends : kind ≠ .die ∧ kind ≠ .star ∧ kind ≠ .slash) :
    (Whole.plain pending (.number value)).extend? kind =
      (Whole.plain other (.number number)).extend? kind := by
  obtain ⟨notDie, notStar, notSlash⟩ := ends
  cases kind <;> simp_all [Whole.extend?, Whole.critical?, Whole.rounded?]

private theorem accepts_merged {joining minus merged literal : Token} {sign : Sign} {value : Int64}
    {left : Whole} (joins : joining.kind.sign? = some sign) (negates : minus.kind = .minus)
    (turns : merged.kind.sign? = some sign.opposite) (denoted : Token.Denotes literal value)
    (nonzero : value ≠ 0)
    (ends : ∀ next, after.head? = some next →
      next.kind ≠ .die ∧ next.kind ≠ .star ∧ next.kind ≠ .slash)
    (accepted : (joining :: minus :: literal :: after).foldlM Stage.accept? (.whole left) =
      some (.whole whole)) :
    ∃ other, (merged :: literal :: after).foldlM Stage.accept? (.whole left) =
        some (.whole other) ∧ other.formula = whole.formula := by
  have signs : minus.kind.sign? = some .minus := by rw [negates]; rfl
  have positive : 0 < value := Int64.lt_of_le_of_ne denoted.nonneg nonzero.symm
  have same : (Whole.plain (.ofSum left.formula sign.opposite) (.number value)).formula =
      (Whole.plain ((Pending.ofSum left.formula sign).signed .minus) (.number value)).formula :=
    (Formula.join_negated_literal left.formula sign positive).symm
  simp only [List.foldlM_cons, accept?_joining joins, accept?_joining turns, accept?_sign signs,
    accept?_number denoted, Option.bind_eq_bind, Option.bind_some, Slot.fill] at accepted ⊢
  cases after with
  | nil =>
      cases accepted
      exact ⟨_, rfl, same⟩
  | cons next rest =>
      refine ⟨whole, ?_, rfl⟩
      rw [← accepted, List.foldlM_cons, List.foldlM_cons, accept?_whole, accept?_whole,
        extend?_literal rfl rfl same (ends next rfl)]

private theorem ofTokens_of_edit {tokens edited : List Token} (edit : SignEdit tokens edited)
    (clean : (ofTokens tokens).diagnostics tokens = []) :
    (ofTokens edited).diagnostics edited = [] ∧
      (ofTokens edited).formula = (ofTokens tokens).formula := by
  cases edit with
  | insertPlus begins plus => exact ofTokens_replace_operand begins clean (accepts_plus plus)
  | deletePlus begins plus =>
      exact ofTokens_replace_operand begins clean fun pending => (accepts_plus plus pending).symm
  | insertMinuses begins first second =>
      exact ofTokens_replace_operand begins clean (accepts_minuses first second)
  | deleteMinuses begins first second =>
      exact ofTokens_replace_operand begins clean fun pending =>
        (accepts_minuses first second pending).symm
  | @merge _ after _ minus _ literal _ _ continues joins negates turns denoted nonzero ends =>
      have start := isSecret_of_sign? joins (minus :: literal :: after)
      refine ofTokens_replace (fun _ => start) clean ?_
      rintro opening inner stage whole rfl opens first others
      cases stage with
      | whole left => exact accepts_merged joins negates turns denoted nonzero ends others
      | awaiting slot =>
          -- A sign that an operand is awaited after stands before that operand.
          obtain ⟨next, accepted, _⟩ := Option.bind_eq_some_iff.mp others
          have awaits := exists_operand_of_accept?_sign joins accepted
          exact absurd ((beginsOperand_iff opens first).mpr awaits) continues

/-- Edits of the signs in tokens that are read without a diagnosis leave
nothing to diagnose, and the same formula is read. -/
theorem ofTokens_of_signEdit {tokens edited shifted : List Token}
    (clean : (ofTokens tokens).diagnostics tokens = []) (edit : SignEdit tokens edited)
    (same : shifted.map Token.unplaced = edited.map Token.unplaced) :
    (ofTokens shifted).diagnostics shifted = [] ∧
      (ofTokens shifted).formula = (ofTokens tokens).formula := by
  obtain ⟨stillClean, formula⟩ := ofTokens_of_edit edit clean
  obtain ⟨shiftedClean, shiftedFormula⟩ := ofTokens_of_unplaced same stillClean
  exact ⟨shiftedClean, shiftedFormula.trans formula⟩

-- A literal that is a difference's right operand turns the difference into a sum.
theorem ofTokens_of_signEdit_difference :
    let tokens := Token.scan "7--3"
    let shifted := Token.scan "7+3"
    (ofTokens tokens).diagnostics tokens = [] ∧ (ofTokens shifted).diagnostics shifted = [] ∧
      (ofTokens shifted).formula = (ofTokens tokens).formula := by
  intro tokens shifted
  have clean : (ofTokens tokens).diagnostics tokens = [] := by decide +kernel
  let seven : Token := ⟨.number, "7", ⟨0, 1⟩⟩
  let first : Token := ⟨.minus, "-", ⟨1, 2⟩⟩
  let second : Token := ⟨.minus, "-", ⟨2, 3⟩⟩
  let three : Token := ⟨.number, "3", ⟨3, 4⟩⟩
  have split : tokens = [seven] ++ [first, second, three] := by decide +kernel
  have denoted : three.Denotes 3 := Token.number?_eq_some_iff.mp (by decide +kernel)
  have accepted : [seven].foldlM Stage.accept? (.awaiting (.operand .nothing)) =
      some (.whole (.plain .nothing (.number 7))) := by decide +kernel
  have continues : ¬BeginsOperand [seven] [first, second, three] := by
    intro begins
    have opens : Opens [] ([seven] ++ [first, second, three]) := .plain rfl
    obtain ⟨_, awaits⟩ := (beginsOperand_iff opens accepted).mp begins
    cases awaits
  have edit : SignEdit tokens ([seven] ++ [⟨.plus, "+", ⟨1, 2⟩⟩, three]) :=
    split ▸ .merge continues rfl rfl rfl denoted (by decide) (by simp)
  exact ⟨clean, ofTokens_of_signEdit clean edit (by decide +kernel)⟩

end Reading

end DiceLanguage
