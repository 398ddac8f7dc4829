import DiceLanguage.Proofs.Reading.Sentences

/-!
# Repairs

Every diagnosis of a reading can be met by an edit of the tokens: a zero takes
the place of what was read for a number, or is added at the end, and what was
left over is dropped. The repaired tokens are read as the same formula, and
nothing is left to diagnose.
-/

set_option autoImplicit false

namespace DiceLanguage

open Text

def Token.zero (span : Span) : Token := ⟨.number, "0", span⟩

private theorem Token.denotes_zero (span : Span) : (zero span).Denotes 0 := by
  refine ⟨rfl, ?_⟩
  change Int64.toInt 0 = Numeral.value "0".toList
  decide +kernel

def Diagnostic.repair (tokens : List Token) (diagnostic : Diagnostic) : List Token :=
  match diagnostic.cause with
  | .missingNumber =>
      if diagnostic.position < tokens.length then
        tokens.set diagnostic.position (.zero diagnostic.span)
      else
        tokens ++ [.zero diagnostic.span]
  | .leftover _ => tokens.take diagnostic.position
  | .unexpected .. | .badTarget _ | .unknownRelation => tokens

namespace Diagnostic

variable {before rest : List Token} {token : Token}

private theorem repair_found {position : Nat} (place : position = before.length) :
    repair (before ++ token :: rest) (.ofToken .missingNumber position token) =
      before ++ .zero token.span :: rest := by
  subst place
  have inside : before.length < (before ++ token :: rest).length := by simp
  have replaced : repair (before ++ token :: rest) (.ofToken .missingNumber before.length token) =
      (before ++ token :: rest).set before.length (.zero token.span) := if_pos inside
  rw [replaced, List.set_append_right _ _ (Nat.le_refl _), Nat.sub_self, List.set_cons_zero]

private theorem repair_end {position : Nat} (place : position = before.length)
    (tokens : List Token) :
    repair before (.ofEnd .missingNumber position tokens) =
      before ++ [.zero (Span.empty (Token.endOfLast tokens))] := by
  subst place
  exact if_neg (Nat.lt_irrefl _)

private theorem repair_leftover {position : Nat} (place : position = before.length) (count : Nat) :
    repair (before ++ rest) (.ofToken (.leftover count) position token) = before := by
  subst place
  exact List.take_left

end Diagnostic

namespace Reading

def repaired (tokens : List Token) : List Token :=
  ((ofTokens tokens).diagnostics tokens).foldl Diagnostic.repair tokens

/-- The gaps of a progress are repaired: after what opens the tokens stand
mended ones, which fit without a gap and lead to the same stage, and then the
rest as it was given. -/
structure Mends (tokens opening rest : List Token) (progress : Progress) (mended : List Token) :
    Prop where
  repaired :
    (progress.gaps.reverse.map (Gap.diagnostic tokens)).foldl Diagnostic.repair tokens =
      opening ++ mended ++ rest
  accepted :
    mended.foldlM Stage.accept? (.awaiting (.operand .nothing)) = some progress.stage
  position : progress.position = (opening ++ mended).length

namespace Mends

variable {tokens opening rest mended : List Token} {progress next : Progress} {token : Token}

private theorem initial (opening rest : List Token) :
    Mends (opening ++ rest) opening rest (.initial opening.length) [] where
  repaired := by simp [Progress.initial]
  accepted := rfl
  position := by simp [Progress.initial]

private theorem accepts_append {stage : Stage} (mends : Mends tokens opening rest progress mended)
    (accepted : progress.stage.accept? token = some stage) :
    (mended ++ [token]).foldlM Stage.accept? (.awaiting (.operand .nothing)) = some stage := by
  simp [List.foldlM_append, mends.accepted, accepted]

private theorem advance {stage : Stage}
    (mends : Mends tokens opening (token :: rest) progress mended)
    (accepted : progress.stage.accept? token = some stage) :
    Mends tokens opening rest (progress.advance stage) (mended ++ [token]) where
  repaired := by
    have repaired := mends.repaired
    simpa [Progress.advance] using repaired
  accepted := mends.accepts_append accepted
  position := by
    have position := mends.position
    simp only [Progress.advance, List.length_append, List.length_singleton] at position ⊢
    omega

/-- A zero fills the gap of a missing number. -/
private theorem fill {slot : Slot} {found : Option Token} {span : Span} {after : List Token}
    (mends : Mends tokens opening rest progress mended)
    (awaits : progress.stage = .awaiting slot)
    (edited : (Gap.diagnostic tokens ⟨progress.position, found⟩).repair
      (opening ++ mended ++ rest) = opening ++ mended ++ .zero span :: after) :
    Mends tokens opening after (progress.miss slot found) (mended ++ [.zero span]) where
  repaired := by
    simp only [Progress.miss, List.reverse_cons, List.map_append, List.foldl_append,
      mends.repaired, List.map_cons, List.map_nil, List.foldl_cons, List.foldl_nil, edited]
    simp
  accepted := by
    apply mends.accepts_append
    rw [awaits]
    exact accept?_number (Token.denotes_zero _) slot
  position := by
    have position := mends.position
    simp only [Progress.miss, List.length_append, List.length_singleton] at position ⊢
    omega

private theorem miss {slot : Slot} (mends : Mends tokens opening (token :: rest) progress mended)
    (awaits : progress.stage = .awaiting slot) :
    Mends tokens opening rest (progress.miss slot (some token))
      (mended ++ [.zero token.span]) :=
  mends.fill awaits (Diagnostic.repair_found mends.position)

private theorem missEnd {slot : Slot} (mends : Mends tokens opening [] progress mended)
    (awaits : progress.stage = .awaiting slot) :
    Mends tokens opening [] (progress.miss slot none)
      (mended ++ [.zero (Span.empty (Token.endOfLast tokens))]) := by
  apply mends.fill awaits
  rw [List.append_nil]
  exact Diagnostic.repair_end mends.position tokens

private theorem take? (mends : Mends tokens opening (token :: rest) progress mended)
    (taken : progress.take? token = some next) :
    ∃ mended, Mends tokens opening rest next mended := by
  rcases Progress.take?_cases taken with ⟨stage, accepted, rfl⟩ | ⟨slot, awaits, rfl⟩
  · exact ⟨_, mends.advance accepted⟩
  · exact ⟨_, mends.miss awaits⟩

/-- Once a whole formula is read, only what is left over has to be dropped. -/
private theorem finish {whole : Whole} (mends : Mends tokens opening rest progress mended)
    (stands : progress.stage = .whole whole) :
    ((progress.finish rest).diagnostics tokens).foldl Diagnostic.repair tokens =
      opening ++ mended := by
  simp only [Progress.finish_eq, stands, diagnostics, gapDiagnostics, leftoverDiagnostics,
    List.foldl_append, mends.repaired]
  cases rest with
  | nil => simp
  | cons token others => exact Diagnostic.repair_leftover mends.position _

theorem read (mends : Mends tokens opening rest progress mended) :
    ∃ mended whole,
      ((progress.read rest).diagnostics tokens).foldl Diagnostic.repair tokens =
        opening ++ mended ∧
      mended.foldlM Stage.accept? (.awaiting (.operand .nothing)) = some (.whole whole) ∧
      (progress.read rest).formula = whole.formula := by
  induction rest generalizing progress mended with
  | nil =>
      cases stage : progress.stage with
      | whole whole =>
          refine ⟨mended, whole, mends.finish stage, stage ▸ mends.accepted, ?_⟩
          simp only [Progress.read_nil, Progress.finish_eq, stage]
      | awaiting slot =>
          -- What ends early is read as if the number that is missing had been taken.
          have missed : progress.read [] = (progress.miss slot none).finish [] := by
            simp only [Progress.read_nil, Progress.finish_eq, stage, Progress.miss]
          have mends := mends.missEnd stage
          rw [missed]
          exact ⟨_, _, mends.finish rfl, mends.accepted, rfl⟩
  | cons token rest ih =>
      cases taken : progress.take? token with
      | some next =>
          obtain ⟨mended, mends⟩ := mends.take? taken
          simp only [Progress.read_cons, taken]
          exact ih mends
      | none =>
          obtain ⟨whole, stands⟩ := Progress.exists_whole_of_take?_eq_none taken
          simp only [Progress.read_cons, taken]
          refine ⟨mended, whole, mends.finish stands, stands ▸ mends.accepted, ?_⟩
          simp only [Progress.finish_eq, stands]

end Mends

private theorem exists_spellsSum_folded_of_accepts {tokens : List Token} {whole : Whole}
    (accepted : tokens.foldlM Stage.accept? (.awaiting (.operand .nothing)) =
      some (.whole whole)) :
    ∃ formula, SpellsSum tokens formula ∧ formula.folded = whole.formula := by
  obtain ⟨formula, spelled⟩ := exists_spellsSum_of_accepts accepted
  obtain ⟨other, others, folded⟩ := accepts_sum spelled
  rw [accepted] at others
  cases others
  exact ⟨formula, spelled, folded.symm⟩

theorem exists_spells_repaired (tokens : List Token) :
    ∃ formula, Spells (repaired tokens) formula ∧ formula.folded = (ofTokens tokens).formula := by
  obtain ⟨opening, rest, rfl, opens, read⟩ := exists_opens tokens
  unfold repaired
  rw [read]
  obtain ⟨mended, whole, repaired, accepted, same⟩ := (Mends.initial opening rest).read
  obtain ⟨formula, spelled, folded⟩ := exists_spellsSum_folded_of_accepts accepted
  refine ⟨formula, ?_, folded.trans same.symm⟩
  cases opens with
  | plain => exact repaired ▸ .plain spelled
  | secret marked => exact repaired ▸ .secret marked spelled

/-- Reading again after the repairs finds the same formula and nothing to
diagnose. -/
theorem ofTokens_repaired (tokens : List Token) :
    (ofTokens (repaired tokens)).diagnostics (repaired tokens) = [] ∧
      (ofTokens (repaired tokens)).formula = (ofTokens tokens).formula := by
  obtain ⟨formula, spelled, folded⟩ := exists_spells_repaired tokens
  rw [ofTokens_of_spells spelled]
  exact ⟨rfl, folded⟩

-- The sign is taken for the number of sides, and what follows it is dropped.
example : (repaired (Token.scan "S2D-6")).map Token.text = ["S", "2", "D", "0"] := by
  decide +kernel

end Reading

end DiceLanguage
