import DiceLanguage.Proofs.Formula.Joints
import DiceLanguage.Proofs.Wording

/-!
# Texts that show where they end

Digits end where no further digit comes, and parentheses where they are closed,
whatever is written after them. Dice are not among such texts: what comes
after them may be taken for more dice.
-/

set_option autoImplicit false

namespace DiceLanguage

open Text

namespace Text.Numeral

theorem digits_append_ne_cons {character : Char} (notDigit : character.isDigit = false)
    (number : Nat) (rest after : List Char) : digits number ++ rest ≠ character :: after := by
  intro same
  obtain ⟨digit, others, digits⟩ := List.exists_cons_of_ne_nil (digits_ne_nil number)
  have isDigit : digit.isDigit = true := isDigit_of_mem_digits (digits ▸ List.mem_cons_self)
  rw [digits] at same
  obtain ⟨rfl, _⟩ := List.cons.inj same
  rw [isDigit] at notDigit
  cases notDigit

private theorem digits_append_unique {number other : Nat} {rest otherRest : List Char}
    (stops : ∀ character, rest.head? = some character → character.isDigit = false)
    (otherStops : ∀ character, otherRest.head? = some character → character.isDigit = false)
    (same : digits number ++ rest = digits other ++ otherRest) :
    digits number = digits other ∧ rest = otherRest := by
  have inside (value : Nat) : ∀ character ∈ digits value, character.isDigit = true :=
    fun _ => isDigit_of_mem_digits
  have divided := Wording.takeWhile_dropWhile_append (inside number) stops
  have otherDivided := Wording.takeWhile_dropWhile_append (inside other) otherStops
  rw [same] at divided
  exact ⟨divided.1.symm.trans otherDivided.1, divided.2.symm.trans otherDivided.2⟩

end Text.Numeral

namespace Tracking

variable {tight otherTight : Nat} {first second rest otherRest : List Char}

private theorem Holds.not_closed (holds : Holds tight first)
    (longer : Holds otherTight (first ++ ')' :: rest)) : False := by
  have shallow := longer.ends 0
  have deep := longer.ends 1
  rw [List.foldl_append, holds.ends, List.foldl_cons] at shallow deep
  -- After the parenthesis nothing is open in either case.
  have closed : step ⟨0, true⟩ ')' = step ⟨1, true⟩ ')' := rfl
  rw [closed, deep] at shallow
  cases shallow

private theorem Holds.closed_unique (holds : Holds tight first)
    (otherHolds : Holds otherTight second)
    (same : first ++ ')' :: rest = second ++ ')' :: otherRest) :
    first = second ∧ rest = otherRest := by
  rcases List.append_eq_append_iff.mp same with ⟨between, longer, after⟩ | ⟨between, longer, after⟩
  · cases between with
    | nil => exact ⟨by rw [longer, List.append_nil], (List.cons.inj after).2⟩
    | cons character between =>
        obtain ⟨rfl, _⟩ := List.cons.inj after
        exact absurd (longer ▸ otherHolds) holds.not_closed
  · cases between with
    | nil => exact ⟨by rw [longer, List.append_nil], (List.cons.inj after).2.symm⟩
    | cons character between =>
        obtain ⟨rfl, _⟩ := List.cons.inj after
        exact absurd (longer ▸ holds) otherHolds.not_closed

/-- A text that shows where it ends, if no digit follows it. -/
inductive IsSealed : List Char → Prop where
  | digits (number : Nat) : IsSealed (Numeral.digits number)
  | grouped {tight characters} :
      Holds tight characters → IsSealed ('(' :: characters ++ [')'])

theorem IsSealed.append_unique (firstSealed : IsSealed first) (secondSealed : IsSealed second)
    (stops : ∀ character, rest.head? = some character → character.isDigit = false)
    (otherStops : ∀ character, otherRest.head? = some character → character.isDigit = false)
    (same : first ++ rest = second ++ otherRest) : first = second ∧ rest = otherRest := by
  cases firstSealed with
  | digits number =>
      cases secondSealed with
      | digits other => exact Numeral.digits_append_unique stops otherStops same
      | grouped => exact absurd same (Numeral.digits_append_ne_cons rfl number rest _)
  | grouped holds =>
      cases secondSealed with
      | digits other => exact absurd same.symm (Numeral.digits_append_ne_cons rfl other otherRest _)
      | grouped otherHolds =>
          simp only [List.cons_append, List.append_assoc, List.nil_append] at same
          obtain ⟨inner, rests⟩ := holds.closed_unique otherHolds (List.cons.inj same).2
          exact ⟨by rw [inner], rests⟩

end Tracking

end DiceLanguage
