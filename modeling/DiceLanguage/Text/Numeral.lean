/-!
# Decimal numerals

Numerals denote 64-bit words. A digit string denotes a word only up to the
largest one; a word is written with a minus sign when it is negative.
-/

set_option autoImplicit false

namespace DiceLanguage.Text.Numeral

def digits (value : Nat) : List Char := Nat.toDigits 10 value

def count (value : Nat) : String := String.ofList (digits value)

/-- The number that some digits denote, leading zeros or not. -/
def value (characters : List Char) : Nat := Nat.ofDigitChars 10 characters 0

def largest : Nat := 9223372036854775807

def ofNat? (number : Nat) : Option Int64 :=
  if number ≤ largest then some (Int64.ofNat number) else none

def word? (characters : List Char) : Option Int64 := ofNat? (value characters)

def written (word : Int64) : List Char :=
  match word.toInt with
  | .ofNat magnitude => digits magnitude
  | .negSucc predecessor => '-' :: digits (predecessor + 1)

def render (word : Int64) : String := String.ofList (written word)

theorem largest_eq : (largest : Int) = Int64.maxValue.toInt := rfl

/-- A number has a word exactly when it is at most the largest word, and the
word stands for the number. -/
theorem ofNat?_eq_some_iff {number : Nat} {word : Int64} :
    ofNat? number = some word ↔ word.toInt = number := by
  unfold ofNat?
  split
  next small =>
    have exact : (Int64.ofNat number).toInt = number :=
      Int64.toInt_ofNat_of_lt (Nat.lt_succ_of_le small)
    rw [Option.some.injEq]
    constructor
    · rintro rfl
      exact exact
    · intro equal
      exact Int64.toInt.inj (exact.trans equal.symm)
  next large =>
    simp only [reduceCtorEq, false_iff]
    intro equal
    have bound := word.toInt_lt
    simp only [largest] at large
    omega

/-- Reading the digits of a number gives the number. -/
@[simp] theorem value_digits (number : Nat) : value (digits number) = number :=
  Nat.ofDigitChars_ten_toDigits

/-- A number is written with digits only. -/
theorem isDigit_of_mem_digits {number : Nat} {character : Char}
    (member : character ∈ digits number) : character.isDigit = true :=
  Nat.isDigit_of_mem_toDigits (by decide) (by decide) member

/-- Every number has a digit. -/
theorem digits_ne_nil (number : Nat) : digits number ≠ [] := Nat.toDigits_ne_nil

end DiceLanguage.Text.Numeral
