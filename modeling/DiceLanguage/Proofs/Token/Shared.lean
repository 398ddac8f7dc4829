import DiceLanguage.Proofs.Arithmetic.Numeral
import DiceLanguage.Proofs.Token

/-!
# Tokens and lexemes of shared texts

Digits, the four operators and separators mean the same to dice formulas and to
arithmetic. A text made of these characters only is cut into the same pieces for
both, and its tokens are its lexemes.
-/

set_option autoImplicit false

namespace DiceLanguage

open Text

def sharedMarks : List Char := ['+', '-', '*', '/']

def isShared (character : Char) : Bool :=
  character.isDigit || sharedMarks.contains character || isSeparator character

def Token.symbol (token : Token) : Arithmetic.Symbol :=
  match token.kind with
  | .number => .literal (Numeral.value token.text.toList)
  | .plus => .plus
  | .minus => .minus
  | .star => .star
  | .slash => .slash
  | .die | .roundUp | .roundNearest | .secret | .critical | .word | .unknown => .unknown

theorem isShared_iff (character : Char) :
    isShared character = true ↔
      character.isDigit = true ∨ character ∈ sharedMarks ∨ isSeparator character = true := by
  rw [isShared, Bool.or_eq_true, Bool.or_eq_true, List.contains_iff_mem, or_assoc]

private theorem Token.role_eq_of_isShared {character : Char} (shared : isShared character = true) :
    role character = Arithmetic.Lexeme.role character := by
  rcases (isShared_iff character).mp shared with digit | mark | separator
  · rw [role_eq_joining digit, Arithmetic.Lexeme.role_of_isDigit digit]
  · simp only [sharedMarks, List.mem_cons, List.not_mem_nil, or_false] at mark
    rcases mark with rfl | rfl | rfl | rfl <;> rfl
  · rw [role, Arithmetic.Lexeme.role, if_pos separator, if_pos separator]

private theorem symbol_ofPiece_of_mem_sharedMarks {mark : Char} (isMark : mark ∈ sharedMarks)
    (start : Nat) :
    (Token.ofPiece ⟨start, [mark]⟩).symbol = (Arithmetic.Lexeme.ofPiece ⟨start, [mark]⟩).symbol ∧
      (Token.ofPiece ⟨start, [mark]⟩).symbol ≠ .unknown := by
  simp only [sharedMarks, List.mem_cons, List.not_mem_nil, or_false] at isMark
  rcases isMark with rfl | rfl | rfl | rfl
  all_goals
    constructor
    · rfl
    · simp [Token.symbol, Token.ofPiece, TokenKind.ofPiece, TokenKind.ofCharacter?]

private theorem symbol_ofPiece_of_isDigit {run : List Char}
    (digits : ∀ character ∈ run, character.isDigit = true) (start : Nat) :
    (Token.ofPiece ⟨start, run⟩).symbol = (Arithmetic.Lexeme.ofPiece ⟨start, run⟩).symbol ∧
      (Token.ofPiece ⟨start, run⟩).symbol ≠ .unknown := by
  have number : (Token.ofPiece ⟨start, run⟩).symbol = .literal (Numeral.value run) := by
    simp only [Token.symbol, Token.ofPiece, TokenKind.ofPiece_of_isDigit digits,
      String.toList_ofList]
  have literal : (Arithmetic.Lexeme.ofPiece ⟨start, run⟩).symbol = .literal (Numeral.value run) :=
    Arithmetic.Symbol.ofPiece_of_isDigit digits
  rw [number, literal]
  exact ⟨rfl, by simp⟩

/-- A piece of a shared text is one operator or a run of digits. -/
private theorem symbol_ofPiece_of_isCut {piece : Piece}
    (cut : Piece.IsCut Token.role piece.characters)
    (shared : ∀ character ∈ piece.characters, isShared character = true) :
    (Token.ofPiece piece).symbol = (Arithmetic.Lexeme.ofPiece piece).symbol ∧
      (Token.ofPiece piece).symbol ≠ .unknown := by
  obtain ⟨start, characters⟩ := piece
  rcases cut with ⟨mark, rfl, alone⟩ | ⟨_, joins⟩
  · rcases (isShared_iff mark).mp (shared mark List.mem_cons_self) with digit | isMark | separator
    · rw [Token.role_eq_joining digit] at alone
      cases alone
    · exact symbol_ofPiece_of_mem_sharedMarks isMark start
    · rw [Token.role, if_pos separator] at alone
      cases alone
  · refine symbol_ofPiece_of_isDigit ?_ start
    intro character member
    have joins := joins character member
    rcases (isShared_iff character).mp (shared character member) with digit | isMark | separator
    · exact digit
    · simp only [sharedMarks, List.mem_cons, List.not_mem_nil, or_false] at isMark
      rcases isMark with rfl | rfl | rfl | rfl <;> cases joins
    · rw [Token.role, if_pos separator] at joins
      cases joins

variable {text : String} (shared : ∀ character ∈ text.toList, isShared character = true)

include shared

private theorem symbol_of_mem_pieces {piece : Piece}
    (member : piece ∈ pieces Token.role text.toList) :
    (Token.ofPiece piece).symbol = (Arithmetic.Lexeme.ofPiece piece).symbol ∧
      (Token.ofPiece piece).symbol ≠ .unknown := by
  obtain ⟨cut, inside⟩ := isCut_of_mem_pieces member
  exact symbol_ofPiece_of_isCut cut fun character among => shared character (inside among)

theorem symbols_eq_map_symbol : Arithmetic.symbols text = (Token.scan text).map Token.symbol := by
  have same := pieces_congr fun character member =>
    Token.role_eq_of_isShared (shared character member)
  rw [Arithmetic.symbols, Arithmetic.Lexeme.scan, Token.scan, ← same, List.map_map, List.map_map]
  exact List.map_congr_left fun piece member => (symbol_of_mem_pieces shared member).1.symm

theorem symbol_ne_unknown_of_mem_scan {token : Token} (member : token ∈ Token.scan text) :
    token.symbol ≠ .unknown := by
  obtain ⟨piece, among, rfl⟩ := List.mem_map.mp member
  exact (symbol_of_mem_pieces shared among).2

end DiceLanguage
