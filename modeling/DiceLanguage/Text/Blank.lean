/-!
# Blank characters

Two classes of blanks are in use. Six ASCII characters separate tokens; the
wider Unicode class `White_Space` is trimmed from the ends of a text.
-/

set_option autoImplicit false

namespace DiceLanguage.Text

/-- Space, tab, line feed, vertical tab, form feed and carriage return. -/
def isSeparator (character : Char) : Bool :=
  character = ' ' || character = '\t' || character = '\n' || character = '\x0b' ||
    character = '\x0c' || character = '\r'

/-- The characters with the Unicode property `White_Space`. -/
def isBlank (character : Char) : Bool :=
  let code := character.toNat
  (0x9 ≤ code && code ≤ 0xd) || code = 0x20 || code = 0x85 || code = 0xa0 ||
    code = 0x1680 || (0x2000 ≤ code && code ≤ 0x200a) || code = 0x2028 || code = 0x2029 ||
    code = 0x202f || code = 0x205f || code = 0x3000

def trimmed (characters : List Char) : List Char :=
  ((characters.dropWhile isBlank).reverse.dropWhile isBlank).reverse

/-- Every separator is blank. -/
theorem isBlank_of_isSeparator {character : Char} (separator : isSeparator character = true) :
    isBlank character = true := by
  simp only [isSeparator, Bool.or_eq_true, decide_eq_true_eq] at separator
  rcases separator with ((((rfl | rfl) | rfl) | rfl) | rfl) | rfl <;> rfl

end DiceLanguage.Text
