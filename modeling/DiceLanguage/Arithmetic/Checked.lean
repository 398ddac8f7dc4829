import DiceLanguage.Arithmetic.Fault

/-!
# Checked arithmetic

Arithmetic on 64-bit words that gives the exact integer or a fault, never a
wrapped word. Quotients are rounded toward negative infinity.
-/

set_option autoImplicit false

namespace DiceLanguage.Arithmetic

def checked (value : Int) : Except Fault Int64 :=
  if Int64.minValue.toInt ≤ value ∧ value ≤ Int64.maxValue.toInt then
    .ok (Int64.ofInt value)
  else
    .error .overflow

def add (left right : Int64) : Except Fault Int64 := checked (left.toInt + right.toInt)

def subtract (left right : Int64) : Except Fault Int64 := checked (left.toInt - right.toInt)

def multiply (left right : Int64) : Except Fault Int64 := checked (left.toInt * right.toInt)

def negate (operand : Int64) : Except Fault Int64 := checked (-operand.toInt)

/-- The quotient rounded toward negative infinity. Word division rounds toward
zero, so a negative quotient that is not exact is one too large. The only
quotient of two words that is no word is that of the least word by `-1`. -/
def divide (dividend divisor : Int64) : Except Fault Int64 :=
  if divisor = 0 then
    .error .divisionByZero
  else if dividend = Int64.minValue ∧ divisor = -1 then
    .error .overflow
  else if dividend % divisor ≠ 0 ∧ decide (dividend < 0) ≠ decide (divisor < 0) then
    .ok (dividend / divisor - 1)
  else
    .ok (dividend / divisor)

end DiceLanguage.Arithmetic
