import DiceLanguage.Proofs.Reading.Observed
import DiceLanguage.Proofs.Reading.Sentences

/-!
# The first obstacle of a reading

Tokens are taken without looking ahead, so what is diagnosed first stands where
the tokens first cease to begin a sentence: main statement
`Reading.first_diagnostic_earliest`.
-/

set_option autoImplicit false

namespace DiceLanguage

def IsSentence (tokens : List Token) : Prop := ∃ formula, Spells tokens formula

/-- Some tokens can follow that make a sentence. -/
def IsViable (tokens : List Token) : Prop := ∃ later, IsSentence (tokens ++ later)

namespace Reading

/-! ## Secret markers -/

private theorem Opens.isSentence {opening rest sum : List Token} {formula : Formula}
    (opens : Opens opening rest) (spelled : SpellsSum sum formula) :
    IsSentence (opening ++ sum) := by
  cases opens with
  | plain => exact ⟨formula, .plain spelled⟩
  | secret marked => exact ⟨formula, .secret marked spelled⟩

private theorem Opens.exists_spellsSum {opening rest : List Token} (opens : Opens opening rest)
    (sentence : IsSentence (opening ++ rest)) : ∃ formula, SpellsSum rest formula := by
  obtain ⟨formula, spelled⟩ := sentence
  cases opens with
  | plain isOpen =>
      cases spelled with
      | plain spelled => exact ⟨formula, spelled⟩
      | secret marked => simp [isSecret, marked] at isOpen
  | secret marked =>
      cases spelled with
      | plain spelled =>
          have isOpen := isSecret_of_spellsSum spelled
          simp [isSecret, marked] at isOpen
      | secret _ spelled => exact ⟨formula, spelled⟩

/-- Only the first of the tokens tells whether a marker stands among them. -/
private theorem Opens.change_end {opening before rest : List Token} {token : Token}
    (opens : Opens opening (before ++ token :: rest)) (later : List Token) :
    Opens opening (before ++ token :: later) := by
  cases opens with
  | plain isOpen => cases before <;> exact .plain isOpen
  | secret marked => exact .secret marked

/-! ## Obstacles -/

inductive Stage.Obstructed (after : List Token) : Stage → Cause → Prop where
  | awaiting {slot} :
      (∀ token, after.head? = some token → (Stage.awaiting slot).accept? token = none) →
      Obstructed after (.awaiting slot) .missingNumber
  | whole {formed token rest} :
      after = token :: rest → (Stage.whole formed).accept? token = none →
      Obstructed after (.whole formed) (.leftover after.length)

private theorem Stage.Obstructed.refuses {stage : Stage} {token : Token} {rest : List Token}
    {cause : Cause} (obstructed : stage.Obstructed (token :: rest) cause) :
    stage.accept? token = none := by
  cases obstructed with
  | awaiting refused => exact refused token rfl
  | whole same refused =>
      cases same
      exact refused

/-- No sentence goes on over an obstacle. -/
theorem Stage.Obstructed.not_isViable {stage : Stage} {opening before rest : List Token}
    {token : Token} {cause : Cause} (obstructed : stage.Obstructed (token :: rest) cause)
    (opens : Opens opening (before ++ token :: rest))
    (accepted : before.foldlM Stage.accept? (.awaiting (.operand .nothing)) = some stage) :
    ¬IsViable (opening ++ (before ++ [token])) := by
  rintro ⟨later, sentence⟩
  rw [List.append_assoc, List.append_assoc, List.singleton_append] at sentence
  obtain ⟨formula, spelled⟩ := (opens.change_end later).exists_spellsSum sentence
  obtain ⟨formed, accepts, _⟩ := accepts_sum spelled
  simp [List.foldlM_append, accepted, obstructed.refuses] at accepts

private theorem head?_diagnostics_of_gaps {reading : Reading} {gap : Gap} {later : List Gap}
    (gaps : reading.gaps = gap :: later) (tokens : List Token) :
    (reading.diagnostics tokens).head? = some (gap.diagnostic tokens) := by
  simp [diagnostics, gapDiagnostics, gaps]

namespace Progress

private theorem obstructed_of_refused {progress : Progress} {token : Token}
    {rest all : List Token} {first : Diagnostic} (clean : progress.gaps = [])
    (refused : progress.stage.accept? token = none)
    (diagnosed : ((progress.read (token :: rest)).diagnostics all).head? = some first) :
    first.position = progress.position ∧ progress.stage.Obstructed (token :: rest) first.cause := by
  rcases take?_of_accept?_eq_none refused with ⟨formed, stands, ended⟩ | ⟨slot, awaits, missed⟩
  · have only : ((progress.read (token :: rest)).diagnostics all).head? =
        some (.ofToken (.leftover (rest.length + 1)) progress.position token) := by
      simp [read_cons, ended, finish_eq, stands, clean, diagnostics, gapDiagnostics,
        leftoverDiagnostics, Diagnostic.ofLeftover]
    rw [only] at diagnosed
    cases diagnosed
    rw [stands] at refused ⊢
    exact ⟨rfl, .whole rfl refused⟩
  · -- The gap here is the first, so it stays at the head whatever is read afterwards.
    obtain ⟨later, _, gaps⟩ :=
      Observer.idle.exists_tells_read (progress.miss slot (some token)) rest
    have first : (progress.read (token :: rest)).gaps =
        ⟨progress.position, some token⟩ :: later := by
      simp only [read_cons, missed, gaps]
      simp [miss, clean]
    rw [head?_diagnostics_of_gaps first] at diagnosed
    cases diagnosed
    rw [awaits] at refused ⊢
    refine ⟨rfl, .awaiting fun other head => ?_⟩
    cases head
    exact refused

/-- Up to the first diagnosis all tokens were accepted. -/
theorem exists_obstructed_of_read {progress : Progress} {rest all : List Token}
    {first : Diagnostic} (clean : progress.gaps = [])
    (diagnosed : ((progress.read rest).diagnostics all).head? = some first) :
    ∃ before after stage, rest = before ++ after ∧
      before.foldlM Stage.accept? progress.stage = some stage ∧
      first.position = progress.position + before.length ∧ stage.Obstructed after first.cause := by
  induction rest generalizing progress with
  | nil =>
      cases stage : progress.stage with
      | whole formed =>
          simp [read_nil, finish_eq, stage, clean, diagnostics, gapDiagnostics, leftoverDiagnostics]
            at diagnosed
      | awaiting slot =>
          have gaps : (progress.read []).gaps = [⟨progress.position, none⟩] := by
            simp [read_nil, finish_eq, stage, miss, clean]
          rw [head?_diagnostics_of_gaps gaps] at diagnosed
          cases diagnosed
          exact ⟨[], [], _, rfl, rfl, rfl, .awaiting (by simp)⟩
  | cons token rest ih =>
      cases accepted : progress.stage.accept? token with
      | some stage =>
          rw [read_of_accept? accepted] at diagnosed
          have stillClean : (progress.advance stage).gaps = [] := clean
          obtain ⟨before, after, last, split, others, position, obstructed⟩ :=
            ih stillClean diagnosed
          refine ⟨token :: before, after, last, congrArg (token :: ·) split, ?_, ?_, obstructed⟩
          · rw [List.foldlM_cons, accepted]
            exact others
          · simp only [advance] at position
            rw [position, List.length_cons]
            omega
      | none =>
          obtain ⟨position, obstructed⟩ := obstructed_of_refused clean accepted diagnosed
          exact ⟨[], token :: rest, _, rfl, rfl, position, obstructed⟩

end Progress

/-- A number that is diagnosed first as missing would have made a sentence, and
the token that stands in its place begins none with those before it. What is
left over first comes after a whole sentence, which it cannot continue. -/
theorem first_diagnostic_earliest {tokens : List Token} {first : Diagnostic}
    (diagnosed : ((ofTokens tokens).diagnostics tokens).head? = some first) :
    (first.cause = .missingNumber ∧ first.position ≤ tokens.length ∧
      (∀ number value, Token.Denotes number value →
        IsSentence (tokens.take first.position ++ [number])) ∧
      (first.position < tokens.length → ¬IsViable (tokens.take (first.position + 1)))) ∨
    (∃ count, first.cause = .leftover count ∧ first.position < tokens.length ∧
      IsSentence (tokens.take first.position) ∧
      ¬IsViable (tokens.take (first.position + 1))) := by
  obtain ⟨opening, rest, rfl, opens, read⟩ := exists_opens tokens
  rw [read] at diagnosed
  obtain ⟨before, after, stage, rfl, accepted, position, obstructed⟩ :=
    Progress.exists_obstructed_of_read rfl diagnosed
  replace accepted : before.foldlM Stage.accept? (.awaiting (.operand .nothing)) = some stage :=
    accepted
  replace position : first.position = (opening ++ before).length := by
    rw [position, List.length_append]
    rfl
  have taken : (opening ++ (before ++ after)).take first.position = opening ++ before := by
    rw [position, ← List.append_assoc, List.take_left]
  have length : (opening ++ (before ++ after)).length = first.position + after.length := by
    rw [position, ← List.append_assoc, List.length_append]
  have refused : first.position < (opening ++ (before ++ after)).length →
      ¬IsViable ((opening ++ (before ++ after)).take (first.position + 1)) := by
    intro inside
    cases after with
    | nil => exact absurd inside (by rw [length]; exact Nat.lt_irrefl _)
    | cons token rest =>
        have cut : (opening ++ (before ++ token :: rest)).take (first.position + 1) =
            opening ++ (before ++ [token]) := by
          rw [position, List.append_cons before, ← List.append_assoc, ← List.append_assoc]
          exact List.take_left' (by simp only [List.length_append, List.length_singleton])
        rw [cut]
        exact obstructed.not_isViable opens accepted
  rw [taken]
  generalize named : first.cause = cause at obstructed
  cases obstructed with
  | @awaiting slot _ =>
      refine .inl ⟨rfl, by omega, ?_, refused⟩
      intro number value denotes
      have fits : (before ++ [number]).foldlM Stage.accept? (.awaiting (.operand .nothing)) =
          some (.whole (slot.fill value)) := by
        simp [List.foldlM_append, accepted, accept?_number denotes]
      obtain ⟨formula, spelled⟩ := exists_spellsSum_of_accepts fits
      rw [List.append_assoc]
      exact opens.isSentence spelled
  | @whole formed token rest next _ =>
      have inside : first.position < (opening ++ (before ++ after)).length := by
        rw [length, next, List.length_cons]
        omega
      obtain ⟨formula, spelled⟩ := exists_spellsSum_of_accepts accepted
      exact .inr ⟨_, rfl, inside, opens.isSentence spelled, refused inside⟩

-- The number of sides is missing, and no token may take the place of `*`.
theorem first_diagnostic_earliest_sides :
    let tokens := Token.scan "S2+-4D*7 6"
    ((ofTokens tokens).diagnostics tokens).head? = some ⟨.missingNumber, 6, ⟨6, 7⟩, "*"⟩ ∧
      (∀ number value, Token.Denotes number value → IsSentence (tokens.take 6 ++ [number])) ∧
      ¬IsViable (tokens.take 7) := by
  intro tokens
  have diagnosed : ((ofTokens tokens).diagnostics tokens).head? =
      some ⟨.missingNumber, 6, ⟨6, 7⟩, "*"⟩ := by decide +kernel
  have inside : 6 < tokens.length := by decide +kernel
  rcases first_diagnostic_earliest diagnosed with ⟨_, _, completed, refused⟩ | ⟨_, other, _⟩
  · exact ⟨diagnosed, completed, refused inside⟩
  · cases other

end Reading

end DiceLanguage
