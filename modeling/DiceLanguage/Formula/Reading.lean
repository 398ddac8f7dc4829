import DiceLanguage.Formula.Stage

/-!
# Reading tokens as a formula

Tokens are read from left to right, one at a time and without looking ahead:

    Formula := S? Sum
    Sum     := Product ((+ | -) Product)*
    Product := Signed ((* Signed) | (/ Signed (U | R)?))*
    Signed  := (+ | -)* Term
    Term    := Number (D Number (@ Number)?)?

Reading never fails. Where a number must stand and none does, the token there
is taken for a zero and the place is recorded as a gap; so is the end of the
tokens. A token that cannot go on from a complete formula ends the reading and
is left over with all that follow it.
-/

set_option autoImplicit false

namespace DiceLanguage

namespace Reading

/-- A number that was missing: its place among the tokens and the token that
stood there, if any. -/
structure Gap where
  position : Nat
  found : Option Token
  deriving DecidableEq

/-- A reading in progress: the stage reached, the number of tokens taken, and
the gaps, latest first. -/
structure Progress where
  stage : Stage
  position : Nat
  gaps : List Gap
  deriving DecidableEq

namespace Progress

/-- Nothing but a secret marker has been read. -/
def initial (position : Nat) : Progress :=
  ⟨.awaiting (.operand .nothing), position, []⟩

def advance (progress : Progress) (stage : Stage) : Progress :=
  { progress with stage := stage, position := progress.position + 1 }

/-- Takes zero for a missing number, in place of a token or of the end. -/
def miss (progress : Progress) (slot : Slot) (found : Option Token) : Progress :=
  { stage := .whole (slot.fill 0)
    position := progress.position + 1
    gaps := ⟨progress.position, found⟩ :: progress.gaps }

end Progress

/-- Whoever watches a reading: what is told of as it happens. -/
structure Observer (m : Type → Type) where
  /-- A secret marker has been passed over. -/
  secret : m Unit
  /-- A number was missing, and zero is taken for it. -/
  gap : Gap → m Unit

def Observer.idle : Observer Id := ⟨return (), fun _ => return ()⟩

def isSecret : List Token → Bool
  | [] => false
  | token :: _ => token.kind = .secret

end Reading

/-- The outcome of reading tokens. `consumed` counts the tokens taken, and one
more when a number was missing at the end. -/
structure Reading where
  formula : Formula
  gaps : List Reading.Gap
  consumed : Nat
  leftover : List Token
  deriving DecidableEq

namespace Reading

namespace Observer

variable {m : Type → Type} [Monad m] (observer : Observer m)

/-- Records a missing number and tells of it. -/
def miss (progress : Progress) (slot : Slot) (found : Option Token) : m Progress := do
  observer.gap ⟨progress.position, found⟩
  return progress.miss slot found

def takeNumber (progress : Progress) (slot : Slot) (token : Token) : m Progress :=
  match token.kind.sign?.bind slot.signed? with
  | some signed => return progress.advance (.awaiting signed)
  | none =>
      match token.number? with
      | some value => return progress.advance (.whole (slot.fill value))
      | none => observer.miss progress slot (some token)

/-- Takes a token; `none` when it cannot go on from a complete formula. -/
def take? (progress : Progress) (token : Token) : m (Option Progress) :=
  match progress.stage with
  | .awaiting slot => return some (← observer.takeNumber progress slot token)
  | .whole whole => return (whole.extend? token.kind).map progress.advance

def finish (progress : Progress) (leftover : List Token) : m Reading :=
  match progress.stage with
  | .whole whole =>
      return ⟨whole.formula, progress.gaps.reverse, progress.position, leftover⟩
  | .awaiting slot => do
      let missed ← observer.miss progress slot none
      return ⟨(slot.fill 0).formula, missed.gaps.reverse, missed.position, leftover⟩

/-- Reads tokens as far as they go on from one another. -/
def read (progress : Progress) : List Token → m Reading
  | [] => observer.finish progress []
  | token :: rest => do
      match ← observer.take? progress token with
      | some next => read next rest
      | none => observer.finish progress (token :: rest)

def readFormula (tokens : List Token) : m Reading :=
  if isSecret tokens then do
    observer.secret
    observer.read (.initial 1) tokens.tail
  else
    observer.read (.initial 0) tokens

end Observer

/-! ## Readings that nobody watches -/

namespace Progress

def takeNumber (progress : Progress) (slot : Slot) (token : Token) : Progress :=
  Id.run (Observer.idle.takeNumber progress slot token)

def take? (progress : Progress) (token : Token) : Option Progress :=
  Id.run (Observer.idle.take? progress token)

def finish (progress : Progress) (leftover : List Token) : Reading :=
  Id.run (Observer.idle.finish progress leftover)

def read (progress : Progress) (tokens : List Token) : Reading :=
  Id.run (Observer.idle.read progress tokens)

variable (progress : Progress)

theorem takeNumber_eq (slot : Slot) (token : Token) :
    progress.takeNumber slot token =
      match token.kind.sign?.bind slot.signed? with
      | some signed => progress.advance (.awaiting signed)
      | none =>
          match token.number? with
          | some value => progress.advance (.whole (slot.fill value))
          | none => progress.miss slot (some token) := by
  unfold takeNumber Observer.takeNumber
  split
  · rfl
  · split <;> rfl

theorem take?_eq (token : Token) :
    progress.take? token =
      match progress.stage with
      | .awaiting slot => some (progress.takeNumber slot token)
      | .whole whole => (whole.extend? token.kind).map progress.advance := by
  unfold take? Observer.take?
  split <;> rfl

theorem take?_awaiting {progress : Progress} {slot : Slot}
    (awaits : progress.stage = .awaiting slot) (token : Token) :
    progress.take? token = some (progress.takeNumber slot token) := by
  simp only [take?_eq, awaits]

theorem take?_whole {progress : Progress} {whole : Whole}
    (stands : progress.stage = .whole whole) (token : Token) :
    progress.take? token = (whole.extend? token.kind).map progress.advance := by
  simp only [take?_eq, stands]

theorem finish_eq (leftover : List Token) :
    progress.finish leftover =
      match progress.stage with
      | .whole whole => ⟨whole.formula, progress.gaps.reverse, progress.position, leftover⟩
      | .awaiting slot =>
          let missed := progress.miss slot none
          ⟨(slot.fill 0).formula, missed.gaps.reverse, missed.position, leftover⟩ := by
  unfold finish Observer.finish
  split <;> rfl

theorem read_nil : progress.read [] = progress.finish [] := rfl

theorem read_cons (token : Token) (rest : List Token) :
    progress.read (token :: rest) =
      match progress.take? token with
      | some next => next.read rest
      | none => progress.finish (token :: rest) := rfl

end Progress

def ofTokens (tokens : List Token) : Reading := Id.run (Observer.idle.readFormula tokens)

theorem ofTokens_eq (tokens : List Token) :
    ofTokens tokens =
      if isSecret tokens then (Progress.initial 1).read tokens.tail
      else (Progress.initial 0).read tokens := by
  unfold ofTokens Observer.readFormula
  split <;> rfl

end Reading

end DiceLanguage
