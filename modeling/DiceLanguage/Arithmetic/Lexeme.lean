import DiceLanguage.Text.Blank
import DiceLanguage.Text.Numeral
import DiceLanguage.Text.Pieces

/-!
# Lexemes of an arithmetic text

A run of digits is one literal, and every other character that is no separator
is a lexeme of its own, known to the grammar or not.
-/

set_option autoImplicit false

namespace DiceLanguage.Arithmetic

open Text

inductive Symbol where
  | literal (value : Nat)
  | plus
  | minus
  | star
  | slash
  | opening
  | closing
  | unknown
  deriving DecidableEq

def Symbol.ofPiece : List Char → Symbol
  | ['+'] => .plus
  | ['-'] => .minus
  | ['*'] => .star
  | ['/'] => .slash
  | ['('] => .opening
  | [')'] => .closing
  | piece => if piece.all Char.isDigit then .literal (Numeral.value piece) else .unknown

structure Lexeme where
  symbol : Symbol
  position : Nat
  text : String
  deriving DecidableEq

namespace Lexeme

def role (character : Char) : Role :=
  if isSeparator character then .separating
  else if character.isDigit then .joining
  else .alone

def ofPiece (piece : Piece) : Lexeme :=
  ⟨.ofPiece piece.characters, piece.start, String.ofList piece.characters⟩

def scan (text : String) : List Lexeme := (pieces role text.toList).map ofPiece

end Lexeme

end DiceLanguage.Arithmetic
