import DiceLanguage.Proofs.Text.Split
import DiceLanguage.Proofs.Token.LongestMatch

/-!
# Tokens as words

The tokens of a text, which longest match finds, are also the words of the text
once every mark has blanks around it: main statement `Token.scan_splits`.
-/

set_option autoImplicit false

namespace DiceLanguage

open Text

namespace Token

inductive HasKind : List Char → TokenKind → Prop where
  | mark {character kind} :
      TokenKind.ofCharacter? character = some kind → HasKind [character] kind
  | number {text} : (∀ character ∈ text, character.isDigit = true) → HasKind text .number
  | word {text} :
      (∀ character ∈ marks, text ≠ [character]) →
      (∃ character ∈ text, character.isDigit = false) → HasKind text .word

private theorem hasKind_ofRun {text : List Char}
    (noMark : ∀ character ∈ marks, text ≠ [character]) :
    HasKind text (.ofRun text) := by
  unfold TokenKind.ofRun
  split
  next digits => exact .number (List.all_eq_true.mp digits)
  next other =>
    rw [Bool.not_eq_true, List.all_eq_false] at other
    simp only [Bool.not_eq_true] at other
    exact .word noMark other

private theorem hasKind_ofPiece (text : List Char) : HasKind text (.ofPiece text) := by
  unfold TokenKind.ofPiece
  split
  next character =>
    cases known : TokenKind.ofCharacter? character with
    | some kind => exact .mark known
    | none =>
        apply hasKind_ofRun
        rintro mark isMark same
        cases same
        obtain ⟨kind, known'⟩ := (mem_marks_iff character).mp isMark
        rw [known] at known'
        cases known'
  next several =>
    exact hasKind_ofRun fun character _ same => several character same

private theorem HasKind.ne_unknown {text : List Char} {kind : TokenKind} (has : HasKind text kind) :
    kind ≠ .unknown := by
  cases has with
  | mark known =>
      rintro rfl
      unfold TokenKind.ofCharacter? at known
      split at known <;> cases known
  | number => simp
  | word => simp

theorem text_scan (text : String) :
    (scan text).map Token.text =
      (words isSeparator (spaced ' ' marks.contains text.toList)).map String.ofList := by
  have pieces := characters_pieces role_eq_separating_iff (show isSeparator ' ' = true from rfl)
    role_eq_alone_iff text.toList
  rw [scan, ← pieces, List.map_map, List.map_map]
  rfl

/-- The tokens of a text are those of longest match. Their texts are the words
of the text with its marks spaced, their kinds are those of the words, and none
is unknown. -/
theorem scan_splits (text : String) :
    (∀ tokens, rules.Lexes 0 text.toList tokens ↔ tokens = scan text) ∧
    (scan text).map Token.text =
      (words isSeparator (spaced ' ' marks.contains text.toList)).map String.ofList ∧
    ∀ token ∈ scan text, HasKind token.text.toList token.kind ∧ token.kind ≠ .unknown := by
  refine ⟨fun tokens => lexes_iff, text_scan text, ?_⟩
  intro token member
  obtain ⟨piece, _, rfl⟩ := List.mem_map.mp member
  have has : HasKind (ofPiece piece).text.toList (ofPiece piece).kind := by
    rw [ofPiece, String.toList_ofList]
    exact hasKind_ofPiece piece.characters
  exact ⟨has, has.ne_unknown⟩

end Token

end DiceLanguage
