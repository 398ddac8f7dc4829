import DiceLanguage.Text.Pieces

/-!
# Pieces of joined texts

A separator divides a text for good: the pieces after it are those of the text
after it, moved to the right. Main statement: `pieces_append_separator`.
-/

set_option autoImplicit false

namespace DiceLanguage.Text

def Piece.shift (distance : Nat) (piece : Piece) : Piece :=
  { piece with start := distance + piece.start }

namespace Cutting

def after (earlier : List Piece) (distance : Nat) (cutting : Cutting) : Cutting :=
  { start := distance + cutting.start
    run := cutting.run
    pieces := cutting.pieces.map (Piece.shift distance) ++ earlier }

variable (role : Char → Role)

theorem close_after (earlier : List Piece) (distance : Nat) (cutting : Cutting) :
    (cutting.after earlier distance).close = cutting.close.after earlier distance := by
  obtain ⟨start, run, pieces⟩ := cutting
  cases run <;> simp [close, after, Piece.shift, Nat.add_assoc]

private theorem step_after (earlier : List Piece) (distance : Nat) (cutting : Cutting)
    (character : Char) :
    (cutting.after earlier distance).step role character =
      (cutting.step role character).after earlier distance := by
  unfold step
  split
  · rw [close_after]; simp [skip, after, Nat.add_assoc]
  · rw [close_after]; simp [single, after, Piece.shift, Nat.add_assoc]
  · rfl

theorem foldl_step_after (earlier : List Piece) (distance : Nat) (cutting : Cutting)
    (text : List Char) :
    text.foldl (step role) (cutting.after earlier distance) =
      (text.foldl (step role) cutting).after earlier distance := by
  induction text generalizing cutting with
  | nil => rfl
  | cons character rest ih => rw [List.foldl_cons, step_after, ih, List.foldl_cons]

def passed (cutting : Cutting) : Nat := cutting.start + byteLength cutting.run

private theorem passed_step (cutting : Cutting) (character : Char) :
    (cutting.step role character).passed = cutting.passed + character.utf8Size := by
  obtain ⟨start, run, pieces⟩ := cutting
  unfold step
  split <;> cases run <;> simp +arith [close, skip, single, join, passed]

theorem passed_foldl (cutting : Cutting) (text : List Char) :
    (text.foldl (step role) cutting).passed = cutting.passed + byteLength text := by
  induction text generalizing cutting with
  | nil => rfl
  | cons character rest ih => simp [ih, passed_step, Nat.add_assoc]

theorem start_close (cutting : Cutting) : cutting.close.start = cutting.passed := by
  obtain ⟨start, run, pieces⟩ := cutting
  cases run <;> simp [close, passed]

theorem run_close (cutting : Cutting) : cutting.close.run = [] := by
  obtain ⟨start, run, pieces⟩ := cutting
  cases run <;> simp [close]

end Cutting

open Cutting

theorem pieces_append_separator (role : Char → Role) {separator : Char}
    (separates : role separator = .separating) (before after : List Char) :
    pieces role (before ++ separator :: after) =
      pieces role before ++
        (pieces role after).map (Piece.shift (byteLength before + separator.utf8Size)) := by
  have reached : (before.foldl (step role) initial).step role separator =
      initial.after (before.foldl (step role) initial).close.pieces
        (byteLength before + separator.utf8Size) := by
    have passed := passed_foldl role initial before
    simp only [step, separates, skip]
    rw [start_close, passed]
    simp [Cutting.after, initial, Cutting.passed, run_close]
  simp only [pieces, List.foldl_append, List.foldl_cons]
  rw [reached, foldl_step_after, close_after]
  simp [Cutting.after, List.map_reverse]

end DiceLanguage.Text
