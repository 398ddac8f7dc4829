import DiceLanguage.Operator
import DiceLanguage.Text.Blank
import DiceLanguage.Text.Numeral
import DiceLanguage.Text.Pieces

/-!
# Tokens of a dice formula

Nine characters are tokens of their own. The other characters form the longest
runs between them and the separators: a run of digits is a number, and any
other run is a word. Every text has tokens; no text is refused here.
-/

set_option autoImplicit false

namespace DiceLanguage

open Text

inductive TokenKind where
  | number
  | plus
  | minus
  | star
  | slash
  /-- `D`, between the number of dice and their sides. -/
  | die
  | roundUp
  | roundNearest
  /-- `S`, before a formula that is rolled in secret. -/
  | secret
  /-- `@`, before the critical number of a dice roll. -/
  | critical
  | word
  /-- Text that no rule covers. No token of a text is of this kind. -/
  | unknown
  deriving DecidableEq

namespace TokenKind

def name : TokenKind → String
  | .number => "<integer>"
  | .plus => "'+'"
  | .minus => "'-'"
  | .star => "'*'"
  | .slash => "'/'"
  | .die => "'D'"
  | .roundUp => "'U'"
  | .roundNearest => "'R'"
  | .secret => "'S'"
  | .critical => "'@'"
  | .word => "<word>"
  | .unknown => "<error>"

def signs : List TokenKind := [.plus, .minus]

def roundings : List TokenKind := [.roundUp, .roundNearest]

def sign? : TokenKind → Option Sign
  | .plus => some .plus
  | .minus => some .minus
  | _ => none

def rounding? : TokenKind → Option Rounding
  | .roundUp => some .up
  | .roundNearest => some .nearest
  | _ => none

theorem mem_signs_iff (kind : TokenKind) : kind ∈ signs ↔ kind.sign?.isSome = true := by
  cases kind <;> simp [signs, sign?]

theorem mem_roundings_iff (kind : TokenKind) :
    kind ∈ roundings ↔ kind.rounding?.isSome = true := by
  cases kind <;> simp [roundings, rounding?]

def ofCharacter? : Char → Option TokenKind
  | '+' => some .plus
  | '-' => some .minus
  | '*' => some .star
  | '/' => some .slash
  | 'D' => some .die
  | 'U' => some .roundUp
  | 'R' => some .roundNearest
  | 'S' => some .secret
  | '@' => some .critical
  | _ => none

def ofRun (run : List Char) : TokenKind := if run.all Char.isDigit then .number else .word

def ofPiece : List Char → TokenKind
  | [character] => (ofCharacter? character).getD (ofRun [character])
  | run => ofRun run

end TokenKind

structure Token where
  kind : TokenKind
  text : String
  span : Span
  deriving DecidableEq

namespace Token

def role (character : Char) : Role :=
  if isSeparator character then .separating
  else if (TokenKind.ofCharacter? character).isSome then .alone
  else .joining

def ofPiece (piece : Piece) : Token :=
  ⟨.ofPiece piece.characters, String.ofList piece.characters, piece.span⟩

def scan (text : String) : List Token := (pieces role text.toList).map ofPiece

/-- The word that a number token denotes. No other token denotes one, nor does
a number above the largest word. -/
def number? (token : Token) : Option Int64 :=
  if token.kind = .number then Numeral.word? token.text.toList else none

end Token

end DiceLanguage
