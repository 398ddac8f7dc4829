import DiceLanguage.Proofs.Text.Coverage
import DiceLanguage.Token

/-!
# Spans of tokens

The span of a token covers its text, and the spans of all tokens of a text are
apart and in order.
-/

set_option autoImplicit false

namespace DiceLanguage.Token

open Text

variable {text : String} {token : Token}

theorem exists_append_of_mem_scan (member : token ∈ scan text) :
    ∃ before after, text.toList = before ++ token.text.toList ++ after ∧
      token.span = Span.of (byteLength before) token.text.toList := by
  obtain ⟨piece, among, rfl⟩ := List.mem_map.mp member
  obtain ⟨before, after, together, begins⟩ := (tiles_pieces text.toList).exists_append piece among
  refine ⟨before, after, ?_, ?_⟩
  · rw [ofPiece, String.toList_ofList, together]
  · rw [Nat.zero_add] at begins
    simp only [ofPiece, String.toList_ofList, Piece.span, begins]

theorem pairwise_scan (text : String) :
    (scan text).Pairwise fun earlier later => earlier.span.stop ≤ later.span.start := by
  rw [scan, List.pairwise_map]
  exact (tiles_pieces text.toList).pairwise

theorem start_lt_stop (member : token ∈ scan text) : token.span.start < token.span.stop := by
  obtain ⟨piece, among, rfl⟩ := List.mem_map.mp member
  exact Piece.start_lt_stop among

end DiceLanguage.Token
