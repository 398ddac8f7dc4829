import DiceLanguage.Proofs.Formula.Sealed

/-!
# What is written determines the shape

Two shapes with the same text have the same last joint, and the same texts on
both sides of it. A shape without joints is digits or a row of signs and places
of dice, and its first character and its marks show which. Main statement:
`Shape.written_injective`.
-/

set_option autoImplicit false

namespace DiceLanguage

open Text

theorem Operator.symbol_injective : Function.Injective symbol := by
  intro operator other same
  cases operator <;> cases other <;> first | rfl | cases same

theorem Rounding.symbol_injective : Function.Injective symbol := by
  intro rounding other same
  cases rounding <;> cases other <;> first | rfl | cases same

theorem Mark.symbol_injective : Function.Injective symbol := by
  intro mark other same
  cases mark <;> cases other <;> first | rfl | cases same

private theorem Mark.isDigit_head? (mark : Mark) (rest : List Char) (character : Char)
    (first : (mark.symbol :: rest).head? = some character) : character.isDigit = false := by
  cases first
  cases mark <;> rfl

namespace Shape

open Tracking

variable {first second left right dividend divisor place rest : Shape} {mark : Mark}

private theorem precedence_eq_of_written_eq (same : first.written = second.written) :
    first.precedence = second.precedence := by
  have holds := first.holds_written
  rw [same] at holds
  exact holds.unique second.holds_written first.precedence_le second.precedence_le

/-! ## Shapes without joints -/

private theorem atom_cases (atom : first.precedence = 4) :
    (∃ magnitude, first = .digits magnitude) ∨ (∃ rest, first = .signed rest) ∨
      ∃ place mark rest, first = .marked place mark rest := by
  cases first with
  | digits magnitude => exact .inl ⟨magnitude, rfl⟩
  | signed rest => exact .inr (.inl ⟨rest, rfl⟩)
  | marked place mark rest => exact .inr (.inr ⟨place, mark, rest, rfl⟩)
  | binary left operator right => exact absurd atom (Nat.ne_of_lt operator.precedence_lt)
  | quotient => exact absurd atom (Nat.ne_of_lt Operator.multiply.precedence_lt)

private theorem joined_cases (joined : first.precedence ≠ 4) :
    (∃ left operator right, first = .binary left operator right) ∨
      ∃ dividend divisor rounding, first = .quotient dividend divisor rounding := by
  cases first with
  | binary left operator right => exact .inl ⟨left, operator, right, rfl⟩
  | quotient dividend divisor rounding => exact .inr ⟨dividend, divisor, rounding, rfl⟩
  | _ => exact absurd rfl joined

private theorem bounded_cases (place : Shape) :
    (∃ magnitude, place = .digits magnitude) ∨
      ∀ characters, place.bounded characters = '(' :: characters ++ [')'] := by
  cases place with
  | digits magnitude => exact .inl ⟨magnitude, rfl⟩
  | _ => exact .inr fun _ => rfl

private theorem isSealed_bounded (place : Shape) : IsSealed (place.bounded place.written) := by
  rcases place.bounded_cases with ⟨magnitude, rfl⟩ | grouped
  · exact .digits magnitude
  · rw [grouped]
    exact .grouped place.holds_written

private theorem written_signed_ne_digits (magnitude : Nat) :
    (signed rest).written ≠ Numeral.digits magnitude := by
  intro same
  have member : '-' ∈ (signed rest).written := List.mem_cons_self
  rw [same] at member
  exact Numeral.minus_not_mem_digits magnitude member

private theorem written_marked_ne_digits (magnitude : Nat) :
    (marked place mark rest).written ≠ Numeral.digits magnitude := by
  intro same
  have member : mark.symbol ∈ (marked place mark rest).written :=
    List.mem_append_right _ List.mem_cons_self
  rw [same] at member
  cases (mark.isDigit_head? [] _ rfl).symm.trans (Numeral.isDigit_of_mem_digits member)

private theorem written_marked_ne_signed (other : Shape) :
    (marked place mark rest).written ≠ (signed other).written := by
  rw [written, written]
  rcases place.bounded_cases with ⟨magnitude, rfl⟩ | grouped
  · exact Numeral.digits_append_ne_cons rfl magnitude _ _
  · rw [grouped]
    intro same
    cases same

private theorem parts_eq_of_written_marked_eq {otherPlace otherRest : Shape} {otherMark : Mark}
    (same : (marked place mark rest).written = (marked otherPlace otherMark otherRest).written) :
    place.bounded place.written = otherPlace.bounded otherPlace.written ∧ mark = otherMark ∧
      rest.enclosed 4 rest.written = otherRest.enclosed 4 otherRest.written := by
  obtain ⟨places, rests⟩ := place.isSealed_bounded.append_unique otherPlace.isSealed_bounded
    (mark.isDigit_head? _) (otherMark.isDigit_head? _) same
  obtain ⟨marks, rests⟩ := List.cons.inj rests
  exact ⟨places, Mark.symbol_injective marks, rests⟩

/-! ## Enclosed shapes -/

private theorem written_ne_grouped (first second : Shape) :
    second.written ≠ '(' :: first.written ++ [')'] := by
  intro same
  have holds := second.holds_written
  rw [same] at holds
  have atom := holds.unique first.holds_written.grouped second.precedence_le (Nat.le_refl 4)
  rcases second.atom_cases atom with ⟨magnitude, rfl⟩ | ⟨rest, rfl⟩ | ⟨place, mark, rest, rfl⟩
  · have opening : '(' ∈ (digits magnitude).written := same ▸ List.mem_cons_self
    cases Numeral.isDigit_of_mem_digits opening
  · cases same
  · -- A text that is closed ends there, without a mark.
    have grouped : IsSealed ('(' :: first.written ++ [')']) := .grouped first.holds_written
    rw [← List.append_nil ('(' :: first.written ++ [')'])] at same
    cases (place.isSealed_bounded.append_unique grouped (mark.isDigit_head? _) (by simp) same).2

private theorem eq_of_enclosed_eq {least : Nat}
    (known : ∀ ⦃other : Shape⦄, first.written = other.written → first = other)
    (same : first.enclosed least first.written = second.enclosed least second.written) :
    first = second := by
  unfold enclosed at same
  split at same
  next =>
    split at same
    next => exact known (List.append_cancel_right (List.cons.inj same).2)
    next => exact absurd same.symm (first.written_ne_grouped second)
  next =>
    split at same
    next => exact absurd same (second.written_ne_grouped first)
    next => exact known same

private theorem eq_of_bounded_eq
    (known : ∀ ⦃other : Shape⦄, first.written = other.written → first = other)
    (same : first.bounded first.written = second.bounded second.written) : first = second := by
  rcases first.bounded_cases with ⟨magnitude, rfl⟩ | grouped
  · rcases second.bounded_cases with ⟨other, rfl⟩ | otherGrouped
    · exact known same
    · rw [otherGrouped] at same
      exact absurd same (second.written_ne_grouped (digits magnitude))
  · rcases second.bounded_cases with ⟨other, rfl⟩ | otherGrouped
    · rw [grouped] at same
      exact absurd same.symm (first.written_ne_grouped (digits other))
    · rw [grouped, otherGrouped] at same
      exact known (List.append_cancel_right (List.cons.inj same).2)

/-! ## Shapes with joints -/

private theorem lastJoint_enclosed (left right : Shape) (joint : Char)
    (continues : ∀ depth, step ⟨depth, true⟩ joint = ⟨depth, false⟩)
    (loose : tightness joint < 4) :
    LastJoint (tightness joint + 1) (left.enclosed (tightness joint) left.written) joint
      (right.enclosed (tightness joint + 1) right.written) := by
  obtain ⟨_, _, leftHolds⟩ := exists_holds_enclosed (Nat.le_of_lt loose) left.holds_written
  obtain ⟨tight, rightTight, rightHolds⟩ := exists_holds_enclosed loose right.holds_written
  refine ⟨leftHolds.ends 0, Nat.lt_succ_self _, ?_⟩
  rw [continues, rightHolds.joints 0 _ loose, decide_eq_false_iff_not]
  omega

private theorem lastJoint_binary (left : Shape) (operator : Operator) (right : Shape) :
    LastJoint (operator.precedence + 1) (left.enclosed operator.precedence left.written)
      operator.symbol (right.enclosed (operator.precedence + 1) right.written) := by
  have symbol : tightness operator.symbol = operator.precedence := by cases operator <;> rfl
  rw [← symbol]
  refine lastJoint_enclosed left right operator.symbol (fun depth => ?_) ?_
  · cases operator <;> rfl
  · cases operator <;> decide

private theorem lastJoint_quotient (dividend divisor : Shape) :
    LastJoint (Operator.multiply.precedence + 1)
      (dividend.enclosed Operator.multiply.precedence dividend.written) '/'
      (divisor.enclosed (Operator.multiply.precedence + 1) divisor.written) :=
  lastJoint_enclosed dividend divisor '/' (fun _ => rfl) (by decide)

private theorem written_divided (dividend divisor : Shape) :
    (quotient dividend divisor none).written =
      dividend.enclosed Operator.multiply.precedence dividend.written ++
        '/' :: divisor.enclosed (Operator.multiply.precedence + 1) divisor.written := by
  rw [written, Option.map_none, Option.toList_none, List.append_nil]

private theorem written_rounded (dividend divisor : Shape) (rounding : Rounding) :
    (quotient dividend divisor (some rounding)).written =
      (quotient dividend divisor none).written ++ [rounding.symbol] := by
  rw [written_divided]
  rfl

private theorem lastJoint_rounding (rounding : Rounding) (dividend divisor : Shape) :
    LastJoint (Operator.multiply.precedence + 1)
      (quotient dividend divisor none).written rounding.symbol [] where
  ends := (quotient dividend divisor none).holds_written.ends 0
  loose := by cases rounding <;> decide
  last := rfl

/-- The last joint of a quotient is its slash or the letter of its rounding. -/
private theorem exists_lastJoint_quotient (dividend divisor : Shape) (rounding : Option Rounding) :
    ∃ before joint after, (quotient dividend divisor rounding).written = before ++ joint :: after ∧
      LastJoint (Operator.multiply.precedence + 1) before joint after ∧ joint ≠ '*' := by
  cases rounding with
  | none =>
      exact ⟨_, _, _, written_divided dividend divisor, lastJoint_quotient dividend divisor,
        by decide⟩
  | some rounding =>
      refine ⟨_, _, [], written_rounded dividend divisor rounding,
        lastJoint_rounding rounding dividend divisor, ?_⟩
      cases rounding <;> decide

private theorem written_binary_ne_quotient {operator : Operator} {rounding : Option Rounding}
    (precedence : operator.precedence = Operator.multiply.precedence) :
    (binary left operator right).written ≠ (quotient dividend divisor rounding).written := by
  intro same
  obtain ⟨before, joint, after, written, divided, notTimes⟩ :=
    exists_lastJoint_quotient dividend divisor rounding
  have ofBinary := lastJoint_binary left operator right
  rw [precedence] at ofBinary
  have symbols := (ofBinary.unique divided (by rw [← written, ← same, ← precedence]; rfl)).2.1
  cases operator with
  | add => cases precedence
  | subtract => cases precedence
  | multiply => exact notTimes symbols.symm

private theorem parts_eq_of_written_binary_eq {otherLeft otherRight : Shape}
    {operator otherOperator : Operator}
    (precedence : operator.precedence = otherOperator.precedence)
    (same : (binary left operator right).written =
      (binary otherLeft otherOperator otherRight).written) :
    left.enclosed operator.precedence left.written =
        otherLeft.enclosed operator.precedence otherLeft.written ∧
      operator = otherOperator ∧
      right.enclosed (operator.precedence + 1) right.written =
        otherRight.enclosed (operator.precedence + 1) otherRight.written := by
  have divided := lastJoint_binary left operator right
  have otherDivided := lastJoint_binary otherLeft otherOperator otherRight
  rw [written, written] at same
  rw [← precedence] at otherDivided same
  obtain ⟨lefts, symbols, rights⟩ := divided.unique otherDivided same
  exact ⟨lefts, Operator.symbol_injective symbols, rights⟩

private theorem rounding_eq_of_written_eq {otherDividend otherDivisor : Shape}
    {rounding otherRounding : Option Rounding}
    (same : (quotient dividend divisor rounding).written =
      (quotient otherDividend otherDivisor otherRounding).written) :
    rounding = otherRounding ∧ (quotient dividend divisor none).written =
      (quotient otherDividend otherDivisor none).written := by
  have slash := lastJoint_quotient dividend divisor
  have otherSlash := lastJoint_quotient otherDividend otherDivisor
  cases rounding with
  | none =>
      cases otherRounding with
      | none => exact ⟨rfl, same⟩
      | some otherRounding =>
          have otherLetter := lastJoint_rounding otherRounding otherDividend otherDivisor
          rw [written_divided, written_rounded] at same
          have joints := (slash.unique otherLetter same).2.1
          cases otherRounding <;> cases joints
  | some rounding =>
      have letter := lastJoint_rounding rounding dividend divisor
      cases otherRounding with
      | none =>
          rw [written_rounded, written_divided otherDividend] at same
          have joints := (letter.unique otherSlash same).2.1
          cases rounding <;> cases joints
      | some otherRounding =>
          have otherLetter := lastJoint_rounding otherRounding otherDividend otherDivisor
          rw [written_rounded, written_rounded] at same
          obtain ⟨divided, letters, _⟩ := letter.unique otherLetter same
          exact ⟨congrArg some (Rounding.symbol_injective letters), divided⟩

private theorem parts_eq_of_written_quotient_eq {otherDividend otherDivisor : Shape}
    {rounding otherRounding : Option Rounding}
    (same : (quotient dividend divisor rounding).written =
      (quotient otherDividend otherDivisor otherRounding).written) :
    dividend.enclosed Operator.multiply.precedence dividend.written =
        otherDividend.enclosed Operator.multiply.precedence otherDividend.written ∧
      rounding = otherRounding ∧
      divisor.enclosed (Operator.multiply.precedence + 1) divisor.written =
        otherDivisor.enclosed (Operator.multiply.precedence + 1) otherDivisor.written := by
  obtain ⟨roundings, divided⟩ := rounding_eq_of_written_eq same
  rw [written_divided, written_divided] at divided
  obtain ⟨dividends, _, divisors⟩ := (lastJoint_quotient dividend divisor).unique
    (lastJoint_quotient otherDividend otherDivisor) divided
  exact ⟨dividends, roundings, divisors⟩

/-- A shape is known by its text. -/
theorem written_injective : Function.Injective written := by
  intro first second same
  -- The precedence is compared first, so that shapes without joints meet only one another.
  induction first generalizing second with
  | digits magnitude =>
      have precedence := precedence_eq_of_written_eq same
      rcases second.atom_cases precedence.symm with
        ⟨other, rfl⟩ | ⟨rest, rfl⟩ | ⟨place, mark, rest, rfl⟩
      · rw [Numeral.digits_injective same]
      · exact absurd same.symm (written_signed_ne_digits magnitude)
      · exact absurd same.symm (written_marked_ne_digits magnitude)
  | signed rest ih =>
      have precedence := precedence_eq_of_written_eq same
      rcases second.atom_cases precedence.symm with
        ⟨magnitude, rfl⟩ | ⟨otherRest, rfl⟩ | ⟨place, mark, otherRest, rfl⟩
      · exact absurd same (written_signed_ne_digits magnitude)
      · rw [eq_of_enclosed_eq ih (List.cons.inj same).2]
      · exact absurd same.symm (written_marked_ne_signed rest)
  | marked place mark rest placeIH restIH =>
      have precedence := precedence_eq_of_written_eq same
      rcases second.atom_cases precedence.symm with
        ⟨magnitude, rfl⟩ | ⟨otherRest, rfl⟩ | ⟨otherPlace, otherMark, otherRest, rfl⟩
      · exact absurd same (written_marked_ne_digits magnitude)
      · exact absurd same (written_marked_ne_signed otherRest)
      · obtain ⟨places, rfl, rests⟩ := parts_eq_of_written_marked_eq same
        rw [eq_of_bounded_eq placeIH places, eq_of_enclosed_eq restIH rests]
  | binary left operator right leftIH rightIH =>
      have precedence := precedence_eq_of_written_eq same
      have joined : second.precedence ≠ 4 := precedence ▸ Nat.ne_of_lt operator.precedence_lt
      rcases second.joined_cases joined with
        ⟨otherLeft, otherOperator, otherRight, rfl⟩ | ⟨dividend, divisor, rounding, rfl⟩
      · obtain ⟨lefts, rfl, rights⟩ := parts_eq_of_written_binary_eq precedence same
        rw [eq_of_enclosed_eq leftIH lefts, eq_of_enclosed_eq rightIH rights]
      · exact absurd same (written_binary_ne_quotient precedence)
  | quotient dividend divisor rounding dividendIH divisorIH =>
      have precedence := precedence_eq_of_written_eq same
      have joined : second.precedence ≠ 4 :=
        precedence ▸ Nat.ne_of_lt Operator.multiply.precedence_lt
      rcases second.joined_cases joined with
        ⟨left, operator, right, rfl⟩ | ⟨otherDividend, otherDivisor, otherRounding, rfl⟩
      · exact absurd same.symm (written_binary_ne_quotient precedence.symm)
      · obtain ⟨dividends, rfl, divisors⟩ := parts_eq_of_written_quotient_eq same
        rw [eq_of_enclosed_eq dividendIH dividends, eq_of_enclosed_eq divisorIH divisors]

end Shape

namespace Formula

/-- Formulas are written the same exactly when they have the same shape. -/
theorem render_eq_iff {first second : Formula} :
    first.render = second.render ↔ first.shape = second.shape := by
  rw [render, render, String.ofList_inj, ← written_shape first, ← written_shape second]
  exact Shape.written_injective.eq_iff

end Formula

end DiceLanguage
