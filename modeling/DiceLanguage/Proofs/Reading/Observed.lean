import DiceLanguage.Formula.Reading
import DiceLanguage.Proofs.Telling

/-!
# Observed readings

Watching a reading changes nothing about it. Each gap is told of in the step
that leaves it, so by the end the gaps told of are those of the reading, in
order, and a secret marker is told of first: main statement
`Observer.readFormula_eq`.
-/

set_option autoImplicit false

namespace DiceLanguage.Reading.Observer

variable {m : Type → Type} [Monad m] [LawfulMonad m] (observer : Observer m) (progress : Progress)

/-! ## Steps -/

private theorem tells_miss (slot : Slot) (found : Option Token) :
    Tells observer.gap (observer.miss progress slot found) [⟨progress.position, found⟩]
      (progress.miss slot found) :=
  (Tells.of_tell _).bind_pure rfl

private theorem exists_tells_takeNumber (slot : Slot) (token : Token) :
    ∃ told, Tells observer.gap (observer.takeNumber progress slot token) told
        (progress.takeNumber slot token) ∧
      (progress.takeNumber slot token).gaps.reverse = progress.gaps.reverse ++ told := by
  rw [Progress.takeNumber_eq, takeNumber]
  split
  next => exact ⟨[], .of_pure _, (List.append_nil _).symm⟩
  next =>
    split
    next => exact ⟨[], .of_pure _, (List.append_nil _).symm⟩
    next => exact ⟨_, observer.tells_miss progress slot _, List.reverse_cons⟩

/-- A token leaves at most one gap, and what is told of is the gap that it
leaves. -/
private theorem exists_tells_take? (token : Token) :
    ∃ told, Tells observer.gap (observer.take? progress token) told (progress.take? token) ∧
      (progress.take? token = none → told = []) ∧
      ∀ next, progress.take? token = some next →
        next.gaps.reverse = progress.gaps.reverse ++ told := by
  rw [Progress.take?_eq, take?]
  split
  next slot _ =>
    obtain ⟨told, tells, recorded⟩ := observer.exists_tells_takeNumber progress slot token
    refine ⟨told, tells.bind_pure rfl, by simp, ?_⟩
    rintro _ ⟨⟩
    exact recorded
  next =>
    refine ⟨[], .of_pure _, fun _ => rfl, fun next taken => ?_⟩
    obtain ⟨stage, _, rfl⟩ := Option.map_eq_some_iff.mp taken
    exact (List.append_nil _).symm

private theorem exists_tells_finish (leftover : List Token) :
    ∃ told, Tells observer.gap (observer.finish progress leftover) told
        (progress.finish leftover) ∧
      (progress.finish leftover).gaps = progress.gaps.reverse ++ told := by
  rw [Progress.finish_eq, finish]
  split
  next => exact ⟨[], .of_pure _, (List.append_nil _).symm⟩
  next slot _ =>
    exact ⟨_, (observer.tells_miss progress slot none).bind_pure rfl, List.reverse_cons⟩

/-! ## Runs -/

/-- By the end of the tokens, the gaps told of are those that were added. -/
theorem exists_tells_read (tokens : List Token) :
    ∃ told, Tells observer.gap (observer.read progress tokens) told (progress.read tokens) ∧
      (progress.read tokens).gaps = progress.gaps.reverse ++ told := by
  induction tokens generalizing progress with
  | nil => exact observer.exists_tells_finish progress []
  | cons token rest ih =>
      obtain ⟨told, step, ended, recorded⟩ := observer.exists_tells_take? progress token
      rw [Progress.read_cons, read]
      cases taken : progress.take? token with
      | none =>
          obtain ⟨last, finished, gaps⟩ := observer.exists_tells_finish progress (token :: rest)
          rw [taken, ended taken] at step
          exact ⟨last, step.bind finished, gaps⟩
      | some next =>
          obtain ⟨others, going, gaps⟩ := ih next
          rw [taken] at step
          rw [recorded next taken, List.append_assoc] at gaps
          exact ⟨told ++ others, step.bind going, gaps⟩

private theorem tells_read_initial (position : Nat) (tokens : List Token) :
    Tells observer.gap (observer.read (.initial position) tokens)
      ((Progress.initial position).read tokens).gaps ((Progress.initial position).read tokens) := by
  obtain ⟨told, tells, gaps⟩ := observer.exists_tells_read (.initial position) tokens
  rw [gaps]
  exact tells

/-- Whoever watches a reading is told of a secret marker and then of the gaps,
each once and in order; and the reading is the one that nobody watches. -/
theorem readFormula_eq (tokens : List Token) :
    observer.readFormula tokens = do
      (if isSecret tokens then observer.secret else return ())
      (ofTokens tokens).gaps.forM observer.gap
      return ofTokens tokens := by
  rw [ofTokens_eq, readFormula]
  split
  next => rw [observer.tells_read_initial 1 tokens.tail]
  next => rw [observer.tells_read_initial 0 tokens, pure_bind]

end DiceLanguage.Reading.Observer
