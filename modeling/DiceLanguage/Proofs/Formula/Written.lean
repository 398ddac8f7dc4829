import DiceLanguage.Formula.Render
import DiceLanguage.Proofs.Text.Blank
import DiceLanguage.Roll.Wording

/-!
# Characters of formulas

Formulas are written with digits and marks. No such character is a lower-case
letter or belongs to a comparison, so what is written for a formula stays whole
when an input is divided and its letters are folded.
-/

set_option autoImplicit false

namespace DiceLanguage

open Text

namespace Formula

def marks : List Char := ['(', ')', '+', '-', '*', '/', 'U', 'R', 'D', '@']

def IsWritable (characters : List Char) : Prop :=
  ∀ character ∈ characters, character.isDigit = true ∨ character ∈ marks

private theorem isWritable_nil : IsWritable [] := by
  intro character member
  cases member

private theorem isWritable_cons {character : Char} {rest : List Char} :
    IsWritable (character :: rest) ↔
      (character.isDigit = true ∨ character ∈ marks) ∧ IsWritable rest :=
  List.forall_mem_cons

private theorem isWritable_append {left right : List Char} :
    IsWritable (left ++ right) ↔ IsWritable left ∧ IsWritable right :=
  List.forall_mem_append

private theorem isWritable_mark {mark : Char} {rest : List Char} (isMark : mark ∈ marks)
    (writable : IsWritable rest) : IsWritable (mark :: rest) :=
  isWritable_cons.mpr ⟨.inr isMark, writable⟩

private theorem isWritable_around {left right : List Char} {mark : Char} (isMark : mark ∈ marks)
    (leftWritable : IsWritable left) (rightWritable : IsWritable right) :
    IsWritable (left ++ mark :: right) :=
  isWritable_append.mpr ⟨leftWritable, isWritable_mark isMark rightWritable⟩

private theorem isWritable_digits (number : Nat) : IsWritable (Numeral.digits number) :=
  fun _ member => .inl (Numeral.isDigit_of_mem_digits member)

theorem isWritable_word (word : Int64) : IsWritable (Numeral.written word) := by
  unfold Numeral.written
  split
  next => exact isWritable_digits _
  next => exact isWritable_mark (by decide) (isWritable_digits _)

private theorem isWritable_enclosed (operand : Formula) (least : Nat) {characters : List Char}
    (writable : IsWritable characters) : IsWritable (operand.enclosed least characters) := by
  unfold enclosed
  split
  next =>
    have closed : IsWritable [')'] := isWritable_mark (by decide) isWritable_nil
    exact isWritable_mark (by decide) (isWritable_append.mpr ⟨writable, closed⟩)
  next => exact writable

private theorem isWritable_rounding (rounding : Option Rounding) :
    IsWritable (rounding.map Rounding.symbol).toList := by
  cases rounding with
  | none => exact isWritable_nil
  | some rounding =>
      apply isWritable_mark
      · cases rounding <;> decide
      · exact isWritable_nil

theorem isWritable_written (formula : Formula) : IsWritable formula.written := by
  induction formula with
  | number value => exact isWritable_word value
  | binary left operator right leftWritable rightWritable =>
      apply isWritable_around
      · cases operator <;> decide
      · exact isWritable_enclosed left _ leftWritable
      · exact isWritable_enclosed right _ rightWritable
  | quotient dividend divisor rounding dividendWritable divisorWritable =>
      apply isWritable_append.mpr
      constructor
      · apply isWritable_around
        · decide
        · exact isWritable_enclosed dividend _ dividendWritable
        · exact isWritable_enclosed divisor _ divisorWritable
      · exact isWritable_rounding rounding
  | negation operand writable =>
      apply isWritable_mark
      · decide
      · exact isWritable_enclosed operand _ writable
  | dice times sides timesWritable sidesWritable =>
      apply isWritable_around
      · decide
      · exact isWritable_enclosed times _ timesWritable
      · exact isWritable_enclosed sides _ sidesWritable
  | criticalDice times sides critical timesWritable sidesWritable criticalWritable =>
      apply isWritable_around
      · decide
      · apply isWritable_around
        · decide
        · exact isWritable_enclosed times _ timesWritable
        · exact isWritable_enclosed sides _ sidesWritable
      · exact isWritable_enclosed critical _ criticalWritable

theorem IsWritable.toUpper_eq {characters : List Char} (writable : IsWritable characters)
    {character : Char} (member : character ∈ characters) : character.toUpper = character := by
  have upper : marks.all (fun mark => mark.toUpper = mark) = true := by decide
  rcases writable character member with isDigit | isMark
  · have ⟨_, high⟩ := Char.isDigit_iff_toNat.mp isDigit
    unfold Char.toUpper
    rw [dif_neg]
    intro ⟨low, _⟩
    exact absurd (Nat.le_trans (UInt32.le_iff_toNat_le.mp low) high) (by decide)
  · exact of_decide_eq_true (List.all_eq_true.mp upper character isMark)

theorem IsWritable.isComparison_eq {characters : List Char} (writable : IsWritable characters)
    {character : Char} (member : character ∈ characters) :
    Wording.isComparison character = false := by
  have apart : marks.all (!Wording.isComparison ·) = true := by decide
  rcases writable character member with isDigit | isMark
  · rw [Bool.eq_false_iff]
    intro comparison
    simp only [Wording.isComparison, Bool.or_eq_true, decide_eq_true_eq] at comparison
    rcases comparison with (rfl | rfl) | rfl <;> cases isDigit
  · simpa using List.all_eq_true.mp apart character isMark

theorem IsWritable.isBlank_eq {characters : List Char} (writable : IsWritable characters)
    {character : Char} (member : character ∈ characters) : isBlank character = false := by
  have solid : marks.all (!isBlank ·) = true := by decide
  rcases writable character member with isDigit | isMark
  · exact isBlank_of_isDigit isDigit
  · simpa using List.all_eq_true.mp solid character isMark

theorem map_toUpper_render (formula : Formula) :
    formula.render.map Char.toUpper = formula.render := by
  have fixed : formula.written.map Char.toUpper = formula.written.map id :=
    List.map_congr_left fun _ member => (isWritable_written formula).toUpper_eq member
  apply String.toList_injective
  rw [String.toList_map, render, String.toList_ofList, fixed, List.map_id]

end Formula

end DiceLanguage
