/-!
# Runs that tell

A run in a monad may tell of things on its way. What it tells of and what it
comes to are said together, so that two runs, one after the other, tell of the
things of both.
-/

set_option autoImplicit false

namespace DiceLanguage

variable {m : Type → Type} [Monad m] {ι κ α β : Type}

/-- A run tells of some things, one after the other, and does nothing else until
it comes to its result. -/
def Tells (tell : ι → m Unit) (run : m α) (told : List ι) (result : α) : Prop :=
  run = do
    told.forM tell
    return result

namespace Tells

variable [LawfulMonad m] {tell : ι → m Unit} {run : m α} {told later : List ι} {result : α}

theorem of_pure (result : α) : Tells tell (pure result) [] result := by
  simp [Tells]

theorem of_tell (thing : ι) : Tells tell (tell thing) [thing] () := by
  simp [Tells]

theorem bind {next : α → m β} {final : β} (first : Tells tell run told result)
    (second : Tells tell (next result) later final) :
    Tells tell (run >>= next) (told ++ later) final := by
  unfold Tells at *
  simp [first, second]

theorem cons {thing : ι} {next : α → m β} {final : β} (first : Tells tell run [thing] result)
    (second : Tells tell (next result) later final) :
    Tells tell (run >>= next) (thing :: later) final :=
  first.bind second

/-- What comes after a run tells of nothing if it only gives a result. -/
theorem bind_pure {next : α → m β} {final : β} (tells : Tells tell run told result)
    (gives : next result = pure final) : Tells tell (run >>= next) told final := by
  rw [← List.append_nil told]
  exact tells.bind (gives ▸ of_pure final)

theorem forM {step : κ → m Unit} {name : κ → ι}
    (tells : ∀ item, Tells tell (step item) [name item] ()) (items : List κ) :
    Tells tell (items.forM step) (items.map name) () := by
  induction items with
  | nil => exact of_pure ()
  | cons item rest ih => exact (tells item).cons ih

end Tells

/-! ## Things that are kept -/

section

variable {σ : Type} {tell : ι → StateM (List σ) Unit} {kept? : ι → Option σ}

private theorem run_forM_of_keeps
    (keeps : ∀ thing kept, (tell thing).run kept = pure ((), (kept? thing).toList ++ kept))
    (told : List ι) (kept : List σ) :
    (told.forM tell).run kept = pure ((), (told.filterMap kept?).reverse ++ kept) := by
  induction told generalizing kept with
  | nil => rfl
  | cons thing rest ih =>
      have step : ((thing :: rest).forM tell).run kept =
          (tell thing).run kept >>= fun state => (rest.forM tell).run state.2 := rfl
      rw [step, keeps, pure_bind, ih]
      cases keep : kept? thing <;> simp [keep]

/-- A state that keeps some of the things told of, latest first. -/
theorem Tells.run_of_keeps {run : StateM (List σ) α} {told : List ι} {result : α}
    (tells : Tells tell run told result)
    (keeps : ∀ thing kept, (tell thing).run kept = pure ((), (kept? thing).toList ++ kept)) :
    run.run [] = pure (result, (told.filterMap kept?).reverse) := by
  rw [tells, StateT.run_bind, run_forM_of_keeps keeps, pure_bind, StateT.run_pure,
    List.append_nil]

end

end DiceLanguage
