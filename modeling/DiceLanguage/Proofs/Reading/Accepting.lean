import DiceLanguage.Roll.Diagnosis

/-!
# Readings without diagnoses

A reading has nothing to diagnose exactly when each token fits the stage that
it meets and the last stage is a whole formula. Stages are followed here by
themselves, without the count of tokens and the gaps of a progress. A secret
marker is no part of what stages take: it only opens the tokens of a formula.
-/

set_option autoImplicit false

namespace DiceLanguage.Reading

def Stage.accept? (stage : Stage) (token : Token) : Option Stage :=
  match stage with
  | .awaiting slot =>
      match token.kind.sign?.bind slot.signed? with
      | some signed => some (.awaiting signed)
      | none => token.number?.map fun value => .whole (slot.fill value)
  | .whole formed => formed.extend? token.kind

namespace Progress

variable {progress next : Progress} {token : Token} {stage : Stage}

theorem take?_of_accept? (accepted : progress.stage.accept? token = some stage) :
    progress.take? token = some (progress.advance stage) := by
  unfold Stage.accept? at accepted
  split at accepted
  next slot awaits =>
    rw [take?_awaiting awaits, takeNumber_eq]
    cases signs : token.kind.sign?.bind slot.signed? with
    | some signed =>
        simp only [signs, Option.some.injEq] at accepted
        rw [← accepted]
    | none =>
        simp only [signs] at accepted
        obtain ⟨value, denoted, rfl⟩ := Option.map_eq_some_iff.mp accepted
        rw [denoted]
  next whole stands => rw [take?_whole stands, accepted, Option.map_some]

/-- A token that does not fit ends the reading of a whole formula, or leaves a
gap where a number is awaited. -/
theorem take?_of_accept?_eq_none (refused : progress.stage.accept? token = none) :
    (∃ whole, progress.stage = .whole whole ∧ progress.take? token = none) ∨
      ∃ slot, progress.stage = .awaiting slot ∧
        progress.take? token = some (progress.miss slot (some token)) := by
  unfold Stage.accept? at refused
  split at refused
  next slot awaits =>
    rw [take?_awaiting awaits, takeNumber_eq]
    cases signs : token.kind.sign?.bind slot.signed? with
    | some signed => simp only [signs, reduceCtorEq] at refused
    | none =>
        simp only [signs] at refused
        rw [Option.map_eq_none_iff.mp refused]
        exact .inr ⟨slot, awaits, rfl⟩
  next whole stands =>
    rw [take?_whole stands, refused]
    exact .inl ⟨whole, stands, rfl⟩

/-- Only a whole formula can end a reading before its tokens do. -/
theorem exists_whole_of_take?_eq_none (ended : progress.take? token = none) :
    ∃ whole, progress.stage = .whole whole := by
  cases stage : progress.stage with
  | awaiting slot => simp [take?_awaiting stage] at ended
  | whole whole => exact ⟨whole, rfl⟩

/-- A token that is taken fits, or leaves a gap where a number is awaited. -/
theorem take?_cases (taken : progress.take? token = some next) :
    (∃ stage, progress.stage.accept? token = some stage ∧ next = progress.advance stage) ∨
      ∃ slot, progress.stage = .awaiting slot ∧ next = progress.miss slot (some token) := by
  cases accepted : progress.stage.accept? token with
  | some stage =>
      rw [take?_of_accept? accepted] at taken
      exact .inl ⟨stage, rfl, (Option.some.inj taken).symm⟩
  | none =>
      rcases take?_of_accept?_eq_none accepted with ⟨_, _, ended⟩ | ⟨slot, awaits, missed⟩
      · rw [ended] at taken
        cases taken
      · rw [missed] at taken
        exact .inr ⟨slot, awaits, (Option.some.inj taken).symm⟩

/-- Gaps are only ever added. -/
private theorem gaps_of_take? (taken : progress.take? token = some next) :
    next.gaps = progress.gaps ∨ ∃ gap, next.gaps = gap :: progress.gaps := by
  rcases take?_cases taken with ⟨stage, _, rfl⟩ | ⟨slot, _, rfl⟩
  · exact .inl rfl
  · exact .inr ⟨_, rfl⟩

private theorem gaps_ne_nil_of_read (missing : progress.gaps ≠ []) (tokens : List Token) :
    (progress.read tokens).gaps ≠ [] := by
  induction tokens generalizing progress with
  | nil =>
      rw [read_nil, finish_eq]
      split <;> simp [miss, missing]
  | cons token rest ih =>
      rw [read_cons]
      split
      next next taken =>
        apply ih
        rcases gaps_of_take? taken with same | ⟨gap, added⟩
        · rw [same]
          exact missing
        · simp [added]
      next =>
        rw [finish_eq]
        split <;> simp [miss, missing]

theorem read_of_accept? (accepted : progress.stage.accept? token = some stage)
    (rest : List Token) :
    progress.read (token :: rest) = (progress.advance stage).read rest := by
  simp only [read_cons, take?_of_accept? accepted]

theorem read_of_accepts {whole : Whole} {tokens : List Token}
    (accepted : tokens.foldlM Stage.accept? progress.stage = some (.whole whole)) :
    progress.read tokens =
      ⟨whole.formula, progress.gaps.reverse, progress.position + tokens.length, []⟩ := by
  induction tokens generalizing progress with
  | nil =>
      simp only [List.foldlM_nil, Option.pure_def, Option.some.injEq] at accepted
      simp [read_nil, finish_eq, accepted]
  | cons token rest ih =>
      simp only [List.foldlM_cons, Option.bind_eq_bind, Option.bind_eq_some_iff] at accepted
      obtain ⟨stage, first, others⟩ := accepted
      rw [read_of_accept? first, ih others]
      simp only [advance, List.length_cons]
      congr 1
      omega

theorem accepts_of_read {tokens : List Token}
    (filled : (progress.read tokens).gaps = [])
    (consumed : (progress.read tokens).leftover = []) :
    ∃ whole, tokens.foldlM Stage.accept? progress.stage = some (.whole whole) := by
  induction tokens generalizing progress with
  | nil =>
      rw [read_nil, finish_eq] at filled
      split at filled
      next whole stands => exact ⟨whole, by simp [stands]⟩
      next => simp [miss] at filled
  | cons token rest ih =>
      simp only [List.foldlM_cons, Option.bind_eq_bind]
      cases accepted : progress.stage.accept? token with
      | some stage =>
          rw [read_of_accept? accepted] at filled consumed
          exact ih filled consumed
      | none =>
          rw [read_cons] at filled consumed
          rcases take?_of_accept?_eq_none accepted with ⟨_, _, ended⟩ | ⟨slot, _, missed⟩
          · simp only [ended, finish_eq] at consumed
            split at consumed <;> cases consumed
          · simp only [missed] at filled
            have missing : (progress.miss slot (some token)).gaps ≠ [] := by simp [miss]
            exact absurd filled (gaps_ne_nil_of_read missing rest)

end Progress

theorem diagnostics_eq_nil_iff (reading : Reading) (tokens : List Token) :
    reading.diagnostics tokens = [] ↔ reading.gaps = [] ∧ reading.leftover = [] := by
  unfold diagnostics gapDiagnostics leftoverDiagnostics
  rw [List.append_eq_nil_iff, List.map_eq_nil_iff]
  cases reading.leftover <;> simp

/-! ## Secret markers -/

/-- A secret marker stands before some tokens, or none does and they do not
begin with one themselves. -/
inductive Opens : List Token → List Token → Prop where
  | plain {tokens} : isSecret tokens = false → Opens [] tokens
  | secret {marker tokens} : marker.kind = .secret → Opens [marker] tokens

theorem Opens.ofTokens_append {opening rest : List Token} (opens : Opens opening rest) :
    ofTokens (opening ++ rest) = (Progress.initial opening.length).read rest := by
  cases opens with
  | plain isOpen => simp [ofTokens_eq, isOpen]
  | secret marked => simp [ofTokens_eq, isSecret, marked]

theorem Opens.ofTokens_of_accepts {opening rest : List Token} {whole : Whole}
    (opens : Opens opening rest)
    (accepted : rest.foldlM Stage.accept? (.awaiting (.operand .nothing)) =
      some (.whole whole)) :
    ofTokens (opening ++ rest) = ⟨whole.formula, [], opening.length + rest.length, []⟩ := by
  rw [opens.ofTokens_append]
  exact Progress.read_of_accepts accepted

theorem Opens.exists_accepts {opening rest tokens : List Token} (opens : Opens opening rest)
    (clean : (ofTokens (opening ++ rest)).diagnostics tokens = []) :
    ∃ whole, rest.foldlM Stage.accept? (.awaiting (.operand .nothing)) = some (.whole whole) := by
  rw [opens.ofTokens_append, diagnostics_eq_nil_iff] at clean
  exact Progress.accepts_of_read clean.1 clean.2

theorem exists_opens (tokens : List Token) :
    ∃ opening rest, tokens = opening ++ rest ∧ Opens opening rest ∧
      ofTokens tokens = (Progress.initial opening.length).read rest := by
  suffices opened : ∃ opening rest, tokens = opening ++ rest ∧ Opens opening rest by
    obtain ⟨opening, rest, rfl, opens⟩ := opened
    exact ⟨opening, rest, rfl, opens, opens.ofTokens_append⟩
  cases tokens with
  | nil => exact ⟨[], [], rfl, .plain rfl⟩
  | cons token rest =>
      by_cases marked : token.kind = .secret
      · exact ⟨[token], rest, rfl, .secret marked⟩
      · exact ⟨[], token :: rest, rfl, .plain (decide_eq_false marked)⟩

/-- No stage takes a secret marker, so the marker is never part of a sum. -/
theorem isSecret_of_accepts {tokens : List Token} {stage : Stage}
    (accepted : tokens.foldlM Stage.accept? (.awaiting (.operand .nothing)) = some stage) :
    isSecret tokens = false := by
  cases tokens with
  | nil => rfl
  | cons token rest =>
      obtain ⟨next, first, _⟩ := Option.bind_eq_some_iff.mp accepted
      simp only [isSecret, decide_eq_false_iff_not]
      intro secret
      simp [Stage.accept?, secret, TokenKind.sign?, Token.number?] at first

theorem Opens.of_accepts {opening rest tokens : List Token} {stage : Stage}
    (opens : Opens opening rest)
    (accepted : tokens.foldlM Stage.accept? (.awaiting (.operand .nothing)) = some stage) :
    Opens opening tokens := by
  cases opens with
  | plain => exact .plain (isSecret_of_accepts accepted)
  | secret marked => exact .secret marked

end DiceLanguage.Reading
