import DiceLanguage.Proofs.Reading.Places
import DiceLanguage.Proofs.Resolution

/-!
# The order of diagnostics

Missing numbers are diagnosed first, from left to right, then what is left
over, then the relation and then the target: main statement
`Reader.diagnostics_read_inOrder`.
-/

set_option autoImplicit false

namespace DiceLanguage

namespace Reading

@[simp] theorem Gap.cause_diagnostic (tokens : List Token) (gap : Gap) :
    (gap.diagnostic tokens).cause = .missingNumber := by
  unfold Gap.diagnostic
  split <;> rfl

@[simp] theorem Gap.position_diagnostic (tokens : List Token) (gap : Gap) :
    (gap.diagnostic tokens).position = gap.position := by
  unfold Gap.diagnostic
  split <;> rfl

variable {tokens : List Token} {reading : Reading} {diagnostic : Diagnostic}

theorem cause_of_mem_gapDiagnostics (member : diagnostic ∈ reading.gapDiagnostics tokens) :
    diagnostic.cause = .missingNumber := by
  obtain ⟨gap, _, rfl⟩ := List.mem_map.mp member
  exact gap.cause_diagnostic tokens

theorem cause_of_mem_leftoverDiagnostics (member : diagnostic ∈ reading.leftoverDiagnostics) :
    ∃ count, diagnostic.cause = .leftover count := by
  unfold leftoverDiagnostics at member
  split at member
  next => cases member
  next =>
    rw [List.mem_singleton.mp member]
    exact ⟨_, rfl⟩

theorem cause_of_mem_diagnostics (member : diagnostic ∈ reading.diagnostics tokens) :
    diagnostic.cause = .missingNumber ∨ ∃ count, diagnostic.cause = .leftover count :=
  (List.mem_append.mp member).imp cause_of_mem_gapDiagnostics cause_of_mem_leftoverDiagnostics

/-- Tokens are diagnosed as left over exactly when the reading stopped before
the last of them, and it is the first of them that is diagnosed. -/
theorem IsPlaced.leftoverDiagnostics_cases (placed : reading.IsPlaced tokens) :
    (reading.consumed < tokens.length ∧ ∃ token, tokens[reading.consumed]? = some token ∧
      reading.leftoverDiagnostics =
        [.ofToken (.leftover (tokens.length - reading.consumed)) reading.consumed token]) ∨
    tokens.length ≤ reading.consumed ∧ reading.leftoverDiagnostics = [] := by
  have leftover := placed.leftover
  unfold leftoverDiagnostics
  split
  next nothing =>
    rw [nothing, eq_comm, List.drop_eq_nil_iff] at leftover
    exact .inr ⟨leftover, rfl⟩
  next token rest stands =>
    rw [stands] at leftover
    have first : tokens[reading.consumed]? = some token := by
      rw [← List.head?_drop, ← leftover, List.head?_cons]
    have count := congrArg List.length leftover
    rw [List.length_cons, List.length_drop] at count
    rw [Diagnostic.ofLeftover, count]
    exact .inl ⟨by omega, token, first, rfl⟩

theorem IsPlaced.pairwise_position (placed : reading.IsPlaced tokens) :
    (reading.diagnostics tokens).Pairwise fun earlier later =>
      earlier.position < later.position := by
  rw [diagnostics, List.pairwise_append]
  refine ⟨?_, ?_, ?_⟩
  · rw [gapDiagnostics, List.pairwise_map]
    simpa only [Gap.position_diagnostic] using placed.ordered
  · rcases placed.leftoverDiagnostics_cases with ⟨_, token, _, only⟩ | ⟨_, nothing⟩
    · rw [only]
      exact List.pairwise_singleton _ _
    · rw [nothing]
      exact .nil
  · intro diagnostic missing other leftover
    obtain ⟨gap, among, rfl⟩ := List.mem_map.mp missing
    have behind := (placed.found gap among).1
    rcases placed.leftoverDiagnostics_cases with ⟨_, token, _, only⟩ | ⟨_, nothing⟩
    · rw [only] at leftover
      rw [List.mem_singleton.mp leftover, Gap.position_diagnostic]
      exact behind
    · rw [nothing] at leftover
      cases leftover

end Reading

/-- Diagnostics of a reading that took `consumed` of `count` tokens, in groups
by what was wrong. A number that was missing at the end counts as taken. -/
structure Diagnostic.InOrder (count consumed : Nat)
    (missing leftover unknown bad : List Diagnostic) : Prop where
  ofNumbers : ∀ diagnostic ∈ missing,
    diagnostic.cause = .missingNumber ∧ diagnostic.position ≤ count
  increasing : missing.Pairwise fun earlier later => earlier.position < later.position
  ofLeftover : if consumed < count then
      ∃ diagnostic, leftover = [diagnostic] ∧
        diagnostic.cause = .leftover (count - consumed) ∧ diagnostic.position = consumed
    else leftover = []
  ofRelation : unknown = [] ∨ ∃ diagnostic, unknown = [diagnostic] ∧
    diagnostic.cause = .unknownRelation ∧ diagnostic.position = count
  ofTarget : bad = [] ∨ ∃ diagnostic fault, bad = [diagnostic] ∧
    diagnostic.cause = .badTarget fault ∧ diagnostic.position = count
  consumed_le : consumed ≤ count + 1
  overrun : consumed = count + 1 ↔ ∃ diagnostic ∈ missing, diagnostic.position = count

theorem Reading.IsPlaced.overrun_iff {tokens : List Token} {reading : Reading}
    (placed : reading.IsPlaced tokens) :
    reading.consumed = tokens.length + 1 ↔
      ∃ diagnostic ∈ reading.gapDiagnostics tokens, diagnostic.position = tokens.length := by
  rw [placed.consumed_eq_succ_iff]
  constructor
  · intro ⟨gap, member, ends⟩
    exact ⟨_, List.mem_map_of_mem member, (gap.position_diagnostic tokens).trans ends⟩
  · intro ⟨diagnostic, member, ends⟩
    obtain ⟨gap, among, rfl⟩ := List.mem_map.mp member
    exact ⟨gap, among, (gap.position_diagnostic tokens).symm.trans ends⟩

theorem Reader.reading_isPlaced (reader : Reader) (input : String) :
    (reader.reading input).IsPlaced (reader.tokens input) :=
  Reading.ofTokens_isPlaced _

/-- The diagnostics of a reading come in order, by the count of tokens taken
that its journal notes. -/
theorem Reader.diagnostics_read_inOrder (reader : Reader) (input : String) :
    let count := (reader.tokens input).length
    let consumed := (reader.reading input).consumed
    Event.consumed consumed count ∈ reader.journal input ∧
    ∃ missing leftover unknown bad,
      (reader.read input).diagnostics = missing ++ leftover ++ unknown ++ bad ∧
      Diagnostic.InOrder count consumed missing leftover unknown bad := by
  intro count consumed
  have placed := reader.reading_isPlaced input
  obtain ⟨unknown, bad, check, relation, target⟩ :=
    reader.interpretation.exists_checkDiagnostics_eq (reader.wording input) count
  refine ⟨by simp [journal_eq, count, consumed],
    (reader.reading input).gapDiagnostics (reader.tokens input),
    (reader.reading input).leftoverDiagnostics, unknown, bad, ?_, ?_⟩
  · rw [read_eq, check, Reading.diagnostics]
    simp only [List.append_assoc]
  constructor
  case ofNumbers =>
    intro diagnostic member
    obtain ⟨gap, among, rfl⟩ := List.mem_map.mp member
    exact ⟨gap.cause_diagnostic _, (gap.position_diagnostic _).symm ▸ placed.position_le among⟩
  case increasing => exact (List.pairwise_append.mp placed.pairwise_position).1
  case ofLeftover =>
    rcases placed.leftoverDiagnostics_cases with ⟨short, token, _, leftover⟩ | ⟨all, nothing⟩
    · rw [if_pos short]
      exact ⟨_, leftover, rfl, rfl⟩
    · rwa [if_neg (Nat.not_lt_of_le all)]
  case ofRelation =>
    rcases relation with none | only
    · exact .inl none
    · exact .inr ⟨_, only, rfl, rfl⟩
  case ofTarget =>
    rcases target with none | ⟨fault, _, only⟩
    · exact .inl none
    · exact .inr ⟨_, fault, only, rfl, rfl⟩
  case consumed_le => exact placed.consumed_le
  case overrun => exact placed.overrun_iff

end DiceLanguage
