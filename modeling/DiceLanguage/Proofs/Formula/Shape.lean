import DiceLanguage.Formula.Render

/-!
# Shapes of formulas

What is written for dice shows neither how dice are nested in the places of
other dice nor whether a sign belongs to a literal, to dice or to the times of
dice. The shape of a formula keeps everything else: signs and the places of
dice stand in a row, in the order in which they are written.
-/

set_option autoImplicit false

namespace DiceLanguage

open Text

/-- What stands between the places of dice. -/
inductive Mark where
  | die
  | critical
  deriving DecidableEq

def Mark.symbol : Mark → Char
  | .die => 'D'
  | .critical => '@'

/-- A formula as far as its text shows it. -/
inductive Shape where
  | digits (magnitude : Nat)
  | binary (left : Shape) (operator : Operator) (right : Shape)
  | quotient (dividend divisor : Shape) (rounding : Option Rounding)
  | signed (rest : Shape)
  | marked (place : Shape) (mark : Mark) (rest : Shape)
  deriving DecidableEq

namespace Shape

def precedence : Shape → Nat
  | .binary _ operator _ => operator.precedence
  | .quotient .. => Operator.multiply.precedence
  | .digits _ | .signed _ | .marked .. => 4

def enclosed (operand : Shape) (least : Nat) (characters : List Char) : List Char :=
  if operand.precedence < least then '(' :: characters ++ [')'] else characters

/-- The characters of a place of dice, in parentheses unless they are digits. -/
def bounded (place : Shape) (characters : List Char) : List Char :=
  match place with
  | .digits _ => characters
  | .binary .. | .quotient .. | .signed _ | .marked .. => '(' :: characters ++ [')']

def written : Shape → List Char
  | .digits magnitude => Numeral.digits magnitude
  | .binary left operator right =>
      left.enclosed operator.precedence left.written ++
        operator.symbol :: right.enclosed (operator.precedence + 1) right.written
  | .quotient dividend divisor rounding =>
      dividend.enclosed Operator.multiply.precedence dividend.written ++
        '/' :: divisor.enclosed (Operator.multiply.precedence + 1) divisor.written ++
          (rounding.map Rounding.symbol).toList
  | .signed rest => '-' :: rest.enclosed 4 rest.written
  | .marked place mark rest =>
      place.bounded place.written ++ mark.symbol :: rest.enclosed 4 rest.written

def followed : Shape → Mark → Shape → Shape
  | .signed rest, mark, more => .signed (rest.followed mark more)
  | .marked place first rest, mark, more => .marked place first (rest.followed mark more)
  | place, mark, more => .marked place mark more

private theorem precedence_followed (shape : Shape) (mark : Mark) (more : Shape) :
    (shape.followed mark more).precedence = 4 := by
  cases shape <;> rfl

private theorem enclosed_followed (shape : Shape) (mark : Mark) (more : Shape)
    (characters : List Char) :
    (shape.followed mark more).enclosed 4 characters = characters := by
  rw [enclosed, precedence_followed, if_neg (Nat.lt_irrefl 4)]

private theorem written_followed (shape : Shape) (mark : Mark) (more : Shape) :
    (shape.followed mark more).written =
      shape.enclosed 4 shape.written ++ mark.symbol :: more.enclosed 4 more.written := by
  induction shape with
  | digits => rfl
  | binary left operator right => cases operator <;> rfl
  | quotient => rfl
  | signed rest ih =>
      rw [followed, written, enclosed_followed, ih]
      rfl
  | marked place first rest _ ih =>
      rw [followed, written, enclosed_followed, ih]
      exact (List.append_assoc _ (first.symbol :: rest.enclosed 4 rest.written) _).symm

theorem followed_followed (shape : Shape) (mark more : Mark) (middle last : Shape) :
    (shape.followed mark middle).followed more last =
      shape.followed mark (middle.followed more last) := by
  induction shape with
  | signed rest ih => exact congrArg signed ih
  | marked place first rest _ ih => exact congrArg (marked place first) ih
  | _ => rfl

def firstMark? : Shape → Option Mark
  | .signed rest => rest.firstMark?
  | .marked _ mark _ => some mark
  | .digits _ | .binary .. | .quotient .. => none

theorem firstMark?_followed (shape : Shape) (mark : Mark) (more : Shape) :
    (shape.followed mark more).firstMark? = shape.firstMark?.or (some mark) := by
  induction shape with
  | signed rest ih => exact ih
  | _ => rfl

/-- A row is divided at its first mark. -/
theorem followed_inj {shape other more otherMore : Shape} {mark otherMark : Mark}
    (bare : shape.firstMark? = none) (otherBare : other.firstMark? = none)
    (same : shape.followed mark more = other.followed otherMark otherMore) :
    shape = other ∧ mark = otherMark ∧ more = otherMore := by
  induction shape generalizing other with
  | signed rest ih =>
      cases other with
      | signed otherRest =>
          have sameRest : rest.followed mark more = otherRest.followed otherMark otherMore :=
            signed.inj same
          have otherRestBare : otherRest.firstMark? = none := otherBare
          obtain ⟨rests, tail⟩ := ih bare otherRestBare sameRest
          exact ⟨congrArg signed rests, tail⟩
      | marked => cases otherBare
      | _ => cases same
  | marked => cases bare
  | _ =>
      cases other with
      | signed => cases same
      | marked => cases otherBare
      | _ => exact marked.inj same

end Shape

namespace Formula

def shape : Formula → Shape
  | .number value =>
      match value.toInt with
      | .ofNat magnitude => .digits magnitude
      | .negSucc predecessor => .signed (.digits (predecessor + 1))
  | .binary left operator right => .binary left.shape operator right.shape
  | .quotient dividend divisor rounding => .quotient dividend.shape divisor.shape rounding
  | .negation operand => .signed operand.shape
  | .dice times sides => times.shape.followed .die sides.shape
  | .criticalDice times sides critical =>
      (times.shape.followed .die sides.shape).followed .critical critical.shape

private theorem precedence_shape (formula : Formula) :
    formula.shape.precedence = formula.precedence := by
  cases formula with
  | number value =>
      unfold shape
      split <;> rfl
  | binary => rfl
  | quotient => rfl
  | negation => rfl
  | dice times sides => exact times.shape.precedence_followed .die sides.shape
  | criticalDice times sides critical => exact Shape.precedence_followed _ .critical critical.shape

private theorem enclosed_shape (formula : Formula) (least : Nat) (characters : List Char) :
    formula.shape.enclosed least characters = formula.enclosed least characters := by
  rw [Shape.enclosed, precedence_shape, enclosed]

/-- A formula is written as its shape is. -/
theorem written_shape (formula : Formula) : formula.shape.written = formula.written := by
  induction formula with
  | number value =>
      rw [shape, written, Numeral.written]
      cases value.toInt <;> rfl
  | binary left operator right leftWritten rightWritten =>
      rw [shape, Shape.written, leftWritten, rightWritten, enclosed_shape, enclosed_shape, written]
  | quotient dividend divisor rounding dividendWritten divisorWritten =>
      rw [shape, Shape.written, dividendWritten, divisorWritten, enclosed_shape, enclosed_shape,
        written]
  | negation operand operandWritten =>
      rw [shape, Shape.written, operandWritten, enclosed_shape, written]
  | dice times sides timesWritten sidesWritten =>
      rw [shape, Shape.written_followed, timesWritten, sidesWritten, enclosed_shape,
        enclosed_shape, written]
      rfl
  | criticalDice times sides critical timesWritten sidesWritten criticalWritten =>
      rw [shape, Shape.written_followed, Shape.enclosed_followed, Shape.written_followed,
        timesWritten, sidesWritten, criticalWritten, enclosed_shape, enclosed_shape,
        enclosed_shape, written]
      rfl

/-- Whatever dice a row begins with, `D` comes before `@`. -/
theorem firstMark?_shape_ne_critical (formula : Formula) :
    formula.shape.firstMark? ≠ some .critical := by
  have opens (times sides : Formula) (timesOpens : times.shape.firstMark? ≠ some .critical) :
      (dice times sides).shape.firstMark? ≠ some .critical := by
    rw [shape, Shape.firstMark?_followed]
    cases first : times.shape.firstMark? with
    | none => simp
    | some mark => rwa [first] at timesOpens
  induction formula with
  | number value =>
      unfold shape
      split <;> simp [Shape.firstMark?]
  | binary => simp [shape, Shape.firstMark?]
  | quotient => simp [shape, Shape.firstMark?]
  | negation operand ih => exact ih
  | dice times sides timesOpens _ => exact opens times sides timesOpens
  | criticalDice times sides critical timesOpens _ _ =>
      have first : (criticalDice times sides critical).shape.firstMark? =
          (dice times sides).shape.firstMark? := by
        rw [shape, shape, Shape.firstMark?_followed, Shape.firstMark?_followed]
        cases times.shape.firstMark? <;> rfl
      rw [first]
      exact opens times sides timesOpens

end Formula

end DiceLanguage
