import DiceLanguage.Text.DefaultIgnorable
import DiceLanguage.Text.GraphemeExtend
import DiceLanguage.Text.Graphic

/-!
# Quoted text

A quoted text stands between double quotes on one line. Characters that would
not show as themselves are written as escapes, so a message can quote any text.
-/

set_option autoImplicit false

namespace DiceLanguage.Text.Quoted

/-- The code point of a character in lower-case hexadecimal, between braces. -/
def codePoint (character : Char) : List Char :=
  '\\' :: 'u' :: '\x7b' :: Nat.toDigits 16 character.toNat ++ ['\x7d']

/-- Whether a character shows as itself wherever it stands: it is drawn, and
not on the character before it. -/
def isVisible (character : Char) : Bool :=
  isGraphic character && !isDefaultIgnorable character && !attaches character

/-- A character as it stands inside quotes. Six characters have short escapes;
any other that does not show as itself is written by its code point. A single
quote stands for itself. -/
def escaped (character : Char) : List Char :=
  match character with
  | '\x00' => ['\\', '0']
  | '\t' => ['\\', 't']
  | '\n' => ['\\', 'n']
  | '\r' => ['\\', 'r']
  | '"' => ['\\', '"']
  | '\\' => ['\\', '\\']
  | other => if isVisible other then [other] else codePoint other

def ofString (text : String) : String :=
  String.ofList ('"' :: text.toList.flatMap escaped ++ ['"'])

def ofList (texts : List String) : String :=
  "[" ++ ", ".intercalate (texts.map ofString) ++ "]"

end DiceLanguage.Text.Quoted
