import DiceLanguage.Proofs.Grammar
import DiceLanguage.Proofs.Text.Blank
import DiceLanguage.Proofs.Text.Pieces
import DiceLanguage.Proofs.Word

/-!
# Tokens of joined texts

A character that is a token of its own divides the tokens of a text, and the
digits of a word are one number token that denotes it.
-/

set_option autoImplicit false

namespace DiceLanguage

open Text

def Token.scanFrom (start : Nat) (characters : List Char) : List Token :=
  (piecesFrom role start characters).map ofPiece

theorem Token.scan_eq_scanFrom (text : String) : scan text = scanFrom 0 text.toList := by
  rw [scan, scanFrom, piecesFrom_zero]

theorem Token.role_eq_alone {mark : Char} {kind : TokenKind}
    (known : TokenKind.ofCharacter? mark = some kind) : role mark = .alone := by
  have solid : isSeparator mark = false := by
    rw [Bool.eq_false_iff]
    intro separator
    simp only [isSeparator, Bool.or_eq_true, decide_eq_true_eq] at separator
    rcases separator with ((((rfl | rfl) | rfl) | rfl) | rfl) | rfl <;> cases known
  simp [role, solid, known]

/-- The tokens of a text are divided wherever the character to come joins
nothing. -/
theorem Token.scanFrom_append_of_head (start : Nat) (before : List Char) {rest : List Char}
    (closed : ∀ character, rest.head? = some character → role character ≠ .joining) :
    scanFrom start (before ++ rest) =
      scanFrom start before ++ scanFrom (start + byteLength before) rest := by
  rw [scanFrom, piecesFrom_append_of_head start before closed, List.map_append]
  rfl

theorem Token.scanFrom_character (start : Nat) {mark : Char} {kind : TokenKind}
    (known : TokenKind.ofCharacter? mark = some kind) (rest : List Char) :
    scanFrom start (mark :: rest) =
      ⟨kind, .ofList [mark], .of start [mark]⟩ ::
        scanFrom (start + byteLength [mark]) rest := by
  rw [scanFrom, piecesFrom_alone start (role_eq_alone known), List.map_cons]
  simp [scanFrom, ofPiece, TokenKind.ofPiece, Piece.span, known]

theorem Token.scanFrom_mark (start : Nat) {mark : Char} {kind : TokenKind}
    (known : TokenKind.ofCharacter? mark = some kind) (before after : List Char) :
    ∃ token later, token.kind = kind ∧
      scanFrom start (before ++ mark :: after) =
        scanFrom start before ++ token :: scanFrom later after := by
  have closed : ∀ character, (mark :: after).head? = some character →
      role character ≠ .joining := by
    intro character first
    cases first
    simp [role_eq_alone known]
  have divided := scanFrom_append_of_head start before closed
  rw [scanFrom_character _ known] at divided
  exact ⟨_, _, rfl, divided⟩

theorem Token.scanFrom_mark_cons (start : Nat) {mark : Char} {kind : TokenKind}
    (known : TokenKind.ofCharacter? mark = some kind) (after : List Char) :
    ∃ token later, token.kind = kind ∧
      scanFrom start (mark :: after) = token :: scanFrom later after :=
  scanFrom_mark start known [] after

private theorem TokenKind.ofCharacter?_of_isDigit {digit : Char} (isDigit : digit.isDigit = true) :
    ofCharacter? digit = none := by
  unfold ofCharacter?
  split <;> first | rfl | cases isDigit

theorem Token.role_eq_joining {digit : Char} (isDigit : digit.isDigit = true) :
    role digit = .joining := by
  simp [role, isSeparator_of_isDigit isDigit, TokenKind.ofCharacter?_of_isDigit isDigit]

theorem TokenKind.ofPiece_of_isDigit {run : List Char}
    (isDigit : ∀ character ∈ run, character.isDigit = true) : ofPiece run = .number := by
  have isNumber : ofRun run = .number := by rw [ofRun, if_pos (List.all_eq_true.mpr isDigit)]
  unfold ofPiece
  split
  next digit =>
    rw [ofCharacter?_of_isDigit (isDigit digit List.mem_cons_self)]
    exact isNumber
  next => exact isNumber

theorem Token.scanFrom_digits (start : Nat) {value : Int64} (nonneg : 0 ≤ value) :
    ∃ token, Token.Denotes token value ∧
      scanFrom start (Numeral.digits value.toInt.toNat) = [token] := by
  have isDigit : ∀ character ∈ Numeral.digits value.toInt.toNat, character.isDigit = true :=
    fun _ => Numeral.isDigit_of_mem_digits
  refine ⟨ofPiece ⟨start, Numeral.digits value.toInt.toNat⟩, ⟨?_, ?_⟩, ?_⟩
  · exact TokenKind.ofPiece_of_isDigit isDigit
  · rw [ofPiece, String.toList_ofList, Numeral.value_digits,
      Int.toNat_of_nonneg (nonneg_iff_toInt.mp nonneg)]
  · rw [scanFrom, piecesFrom, pieces_joining (Numeral.digits_ne_nil _)
      fun _ member => role_eq_joining (isDigit _ member)]
    rfl

end DiceLanguage
