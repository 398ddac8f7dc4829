import DiceLanguage.Proofs.Formula.Shape
import DiceLanguage.Proofs.Text.Numeral

/-!
# Joints of a written formula

The operators and roundings that hold the outermost parts of a formula
together are seen in its text alone: they stand outside all parentheses and
after something that could be an operand, where a minus sign is no sign of what
follows. How tightly they bind is how tightly the formula holds together.
-/

set_option autoImplicit false

namespace DiceLanguage

open Text

structure Tracking where
  /-- How many parentheses are open. -/
  depth : Nat
  /-- Whether an operand has just ended. -/
  ended : Bool

namespace Tracking

def step (tracking : Tracking) (character : Char) : Tracking :=
  if character = '(' then ⟨tracking.depth + 1, false⟩
  else if character = ')' then ⟨tracking.depth - 1, true⟩
  else ⟨tracking.depth, character.isDigit || character = 'U' || character = 'R'⟩

/-- How tightly a character holds together what stands before and after it. -/
def tightness (character : Char) : Nat :=
  if character = '+' ∨ character = '-' then 1
  else if character = '*' ∨ character = '/' ∨ character = 'U' ∨ character = 'R' then 2
  else 4

/-- Whether some characters have a joint outside all parentheses that holds
together less tightly than `least` asks for. -/
def hasJoint (least : Nat) : Tracking → List Char → Bool
  | _, [] => false
  | tracking, character :: rest =>
      (tracking.depth == 0 && tracking.ended && decide (tightness character < least)) ||
        hasJoint least (tracking.step character) rest

private theorem hasJoint_append (least : Nat) (tracking : Tracking) (before after : List Char) :
    hasJoint least tracking (before ++ after) =
      (hasJoint least tracking before || hasJoint least (before.foldl step tracking) after) := by
  induction before generalizing tracking with
  | nil => rfl
  | cons character before ih =>
      simp only [List.cons_append, hasJoint, List.foldl_cons, ih, Bool.or_assoc]

private theorem step_digit (tracking : Tracking) {digit : Char} (isDigit : digit.isDigit = true) :
    tracking.step digit = ⟨tracking.depth, true⟩ := by
  have notOpening : digit ≠ '(' := by rintro rfl; cases isDigit
  have notClosing : digit ≠ ')' := by rintro rfl; cases isDigit
  simp [step, notOpening, notClosing, isDigit]

private theorem tightness_digit {digit : Char} (isDigit : digit.isDigit = true) :
    tightness digit = 4 := by
  have differs {other : Char} (isOther : other.isDigit = false) : digit ≠ other := by
    rintro rfl
    rw [isDigit] at isOther
    cases isOther
  unfold tightness
  rw [if_neg, if_neg]
  · simp only [not_or]
    exact ⟨differs rfl, differs rfl, differs rfl, differs rfl⟩
  · simp only [not_or]
    exact ⟨differs rfl, differs rfl⟩

private theorem follow_digits {digits : List Char} (nonempty : digits ≠ [])
    (areDigits : ∀ digit ∈ digits, digit.isDigit = true) (tracking : Tracking) :
    digits.foldl step tracking = ⟨tracking.depth, true⟩ ∧
      ∀ least ≤ 4, hasJoint least tracking digits = false := by
  induction digits generalizing tracking with
  | nil => exact absurd rfl nonempty
  | cons digit rest ih =>
      obtain ⟨first, others⟩ := List.forall_mem_cons.mp areDigits
      have joint (least : Nat) (small : least ≤ 4) :
          hasJoint least tracking (digit :: rest) =
            hasJoint least ⟨tracking.depth, true⟩ rest := by
        have notLoose : ¬ 4 < least := by omega
        simp [hasJoint, tightness_digit first, step_digit tracking first, notLoose]
      rw [List.foldl_cons, step_digit tracking first]
      cases rest with
      | nil => exact ⟨rfl, joint⟩
      | cons next later =>
          obtain ⟨ends, none⟩ := ih (List.cons_ne_nil _ _) others ⟨tracking.depth, true⟩
          exact ⟨ends, fun least small => (joint least small).trans (none least small)⟩

/-- A text that ends an operand wherever one may begin. Unless it stands inside
parentheses it has a joint that is looser than `least` exactly when `tight` is
less. -/
structure Holds (tight : Nat) (characters : List Char) : Prop where
  ends : ∀ depth, characters.foldl step ⟨depth, false⟩ = ⟨depth, true⟩
  joints : ∀ depth, ∀ least ≤ 4,
    hasJoint least ⟨depth, false⟩ characters = decide (depth = 0 ∧ tight < least)

namespace Holds

variable {tight : Nat} {characters : List Char}

theorem unique {other : Nat} (holds : Holds tight characters) (otherHolds : Holds other characters)
    (small : tight ≤ 4) (otherSmall : other ≤ 4) : tight = other := by
  have atTight := (holds.joints 0 tight small).symm.trans (otherHolds.joints 0 tight small)
  have atOther :=
    (holds.joints 0 other otherSmall).symm.trans (otherHolds.joints 0 other otherSmall)
  simp only [decide_eq_decide, true_and] at atTight atOther
  omega

private theorem digits (number : Nat) : Holds 4 (Numeral.digits number) where
  ends depth :=
    (follow_digits (Numeral.digits_ne_nil number) (fun _ => Numeral.isDigit_of_mem_digits) _).1
  joints depth least small := by
    have none := (follow_digits (Numeral.digits_ne_nil number)
      (fun _ => Numeral.isDigit_of_mem_digits) ⟨depth, false⟩).2 least small
    rw [none, eq_comm, decide_eq_false_iff_not]
    omega

private theorem negated (holds : Holds tight characters) (atom : 4 ≤ tight) :
    Holds 4 ('-' :: characters) where
  ends depth := by
    rw [List.foldl_cons, ← holds.ends depth]
    rfl
  joints depth least small := by
    have same : hasJoint least ⟨depth, false⟩ ('-' :: characters) =
        hasJoint least ⟨depth, false⟩ characters := by
      simp [hasJoint, step, Char.isDigit]
    rw [same, holds.joints depth least small, decide_eq_decide]
    omega

/-- What stands inside parentheses is no joint of what stands outside. -/
theorem grouped (holds : Holds tight characters) : Holds 4 ('(' :: characters ++ [')']) where
  ends depth := by
    have opened : step ⟨depth, false⟩ '(' = ⟨depth + 1, false⟩ := rfl
    rw [List.cons_append, List.foldl_cons, opened, List.foldl_append, holds.ends]
    rfl
  joints depth least small := by
    have opened : step ⟨depth, false⟩ '(' = ⟨depth + 1, false⟩ := rfl
    rw [List.cons_append, hasJoint, opened, hasJoint_append, holds.joints _ least small,
      holds.ends]
    simp [hasJoint, small]

private theorem joined {second : Nat} {after : List Char} (holds : Holds tight characters)
    (joint : Char) (secondHolds : Holds second after)
    (continues : ∀ depth, step ⟨depth, true⟩ joint = ⟨depth, false⟩)
    (first : tightness joint ≤ tight) (loose : tightness joint ≤ second) :
    Holds (tightness joint) (characters ++ joint :: after) where
  ends depth := by
    rw [List.foldl_append, holds.ends, List.foldl_cons, continues, secondHolds.ends]
  joints depth least small := by
    rw [hasJoint_append, holds.joints depth least small, holds.ends, hasJoint, continues,
      secondHolds.joints depth least small]
    have equal : (depth == 0) = decide (depth = 0) := rfl
    simp only [equal, Bool.and_true, ← Bool.decide_and, ← Bool.decide_or, decide_eq_decide]
    omega

private theorem rounded (holds : Holds 2 characters) (rounding : Rounding) :
    Holds 2 (characters ++ [rounding.symbol]) where
  ends depth := by
    rw [List.foldl_append, holds.ends]
    cases rounding <;> rfl
  joints depth least small := by
    have symbol : tightness rounding.symbol = 2 := by cases rounding <;> rfl
    rw [hasJoint_append, holds.joints depth least small, holds.ends, hasJoint, symbol]
    simp [hasJoint]

end Holds

/-- A text, divided at the last joint outside all parentheses that holds
together less tightly than `least` asks for. -/
structure LastJoint (least : Nat) (before : List Char) (joint : Char) (after : List Char) :
    Prop where
  ends : before.foldl step ⟨0, false⟩ = ⟨0, true⟩
  loose : tightness joint < least
  last : hasJoint least (step ⟨0, true⟩ joint) after = false

namespace LastJoint

variable {least : Nat} {before between after before' after' : List Char} {joint joint' : Char}

private theorem not_followed (divided : LastJoint least before joint (between ++ joint' :: after'))
    (other : LastJoint least (before ++ joint :: between) joint' after') : False := by
  have ends : between.foldl step (step ⟨0, true⟩ joint) = ⟨0, true⟩ := by
    simpa only [List.foldl_append, divided.ends, List.foldl_cons] using other.ends
  -- So the other joint is one after the last.
  have last := divided.last
  rw [hasJoint_append, ends, hasJoint] at last
  simp [other.loose] at last

private theorem unique_of_le (divided : LastJoint least before joint after)
    (other : LastJoint least before' joint' after') (longer : before' = before ++ between)
    (rest : joint :: after = between ++ joint' :: after') :
    before = before' ∧ joint = joint' ∧ after = after' := by
  cases between with
  | nil =>
      obtain ⟨rfl, rfl⟩ := List.cons.inj rest
      exact ⟨by rw [longer, List.append_nil], rfl, rfl⟩
  | cons first between =>
      obtain ⟨rfl, rfl⟩ := List.cons.inj rest
      subst longer
      exact absurd other divided.not_followed

theorem unique (divided : LastJoint least before joint after)
    (other : LastJoint least before' joint' after')
    (same : before ++ joint :: after = before' ++ joint' :: after') :
    before = before' ∧ joint = joint' ∧ after = after' := by
  rcases List.append_eq_append_iff.mp same with ⟨between, longer, rest⟩ | ⟨between, longer, rest⟩
  · exact divided.unique_of_le other longer rest
  · obtain ⟨equal, joints, afters⟩ := other.unique_of_le divided longer rest
    exact ⟨equal.symm, joints.symm, afters.symm⟩

end LastJoint

end Tracking

theorem Operator.precedence_lt (operator : Operator) : operator.precedence < 4 := by
  cases operator <;> decide

namespace Shape

open Tracking

theorem precedence_le (shape : Shape) : shape.precedence ≤ 4 := by
  cases shape with
  | binary left operator right => exact Nat.le_of_lt operator.precedence_lt
  | quotient => exact Nat.le_of_lt Operator.multiply.precedence_lt
  | _ => exact Nat.le_refl 4

theorem exists_holds_enclosed {shape : Shape} {least : Nat} (small : least ≤ 4)
    (holds : Holds shape.precedence shape.written) :
    ∃ tight, least ≤ tight ∧ Holds tight (shape.enclosed least shape.written) := by
  unfold enclosed
  split
  next => exact ⟨4, small, holds.grouped⟩
  next notLess => exact ⟨shape.precedence, by omega, holds⟩

private theorem holds_bounded {place : Shape} (holds : Holds place.precedence place.written) :
    Holds 4 (place.bounded place.written) := by
  cases place with
  | digits magnitude => exact .digits magnitude
  | _ => exact holds.grouped

/-- The text of a shape shows how tightly the shape holds together. -/
theorem holds_written (shape : Shape) : Holds shape.precedence shape.written := by
  induction shape with
  | digits magnitude => exact .digits magnitude
  | signed rest holds =>
      obtain ⟨tight, atom, holds⟩ := exists_holds_enclosed (Nat.le_refl 4) holds
      exact holds.negated atom
  | binary left operator right leftHolds rightHolds =>
      have symbol : tightness operator.symbol = operator.precedence := by cases operator <;> rfl
      have small : operator.precedence < 4 := operator.precedence_lt
      obtain ⟨first, firstTight, leftHolds⟩ := exists_holds_enclosed (Nat.le_of_lt small) leftHolds
      obtain ⟨second, secondTight, rightHolds⟩ := exists_holds_enclosed small rightHolds
      have joined := leftHolds.joined operator.symbol rightHolds
        (fun depth => by cases operator <;> rfl) (by omega) (by omega)
      rwa [symbol] at joined
  | quotient dividend divisor rounding dividendHolds divisorHolds =>
      obtain ⟨first, firstTight, dividendHolds⟩ :=
        exists_holds_enclosed (show Operator.multiply.precedence ≤ 4 by decide) dividendHolds
      obtain ⟨second, secondTight, divisorHolds⟩ :=
        exists_holds_enclosed (show Operator.multiply.precedence + 1 ≤ 4 by decide) divisorHolds
      have slash : tightness '/' = Operator.multiply.precedence := rfl
      have divided := dividendHolds.joined '/' divisorHolds (fun depth => rfl)
        (by omega) (by omega)
      cases rounding with
      | none =>
          rw [written, Option.map_none, Option.toList_none, List.append_nil]
          exact divided
      | some rounding => exact divided.rounded rounding
  | marked place mark rest placeHolds restHolds =>
      -- `D` and `@` are no joints: what they stand in holds together like a number.
      have tight : tightness mark.symbol = 4 := by cases mark <;> rfl
      obtain ⟨second, secondTight, restHolds⟩ := exists_holds_enclosed (Nat.le_refl 4) restHolds
      have joined := (holds_bounded placeHolds).joined mark.symbol restHolds
        (fun depth => by cases mark <;> rfl) (by omega) (by omega)
      rwa [tight] at joined

end Shape

end DiceLanguage
