import DiceLanguage.Proofs.Reading.Accepting
import DiceLanguage.Proofs.Sides
import DiceLanguage.Proofs.Token

/-!
# Readings further on

Tokens that stand further on in a text are read alike, and all that the reading
and its diagnostics say of places is as much further on.
-/

set_option autoImplicit false

namespace DiceLanguage

open Text

namespace Token

def shift (bytes : Nat) (token : Token) : Token :=
  { token with span := token.span.shift bytes }

@[simp] theorem kind_shift (bytes : Nat) (token : Token) : (token.shift bytes).kind = token.kind :=
  rfl

@[simp] theorem number?_shift (bytes : Nat) (token : Token) :
    (token.shift bytes).number? = token.number? := rfl

theorem scanFrom_eq_map_shift (start : Nat) (characters : List Char) :
    scanFrom start characters = (scanFrom 0 characters).map (shift start) := by
  simp only [scanFrom, piecesFrom, Piece.shift_zero, List.map_id, List.map_map]
  apply List.map_congr_left
  intro piece _
  simp [ofPiece, Piece.span, Piece.shift, shift, Span.of, Span.shift, Nat.add_assoc]

end Token

namespace Reading

def Gap.shift (tokens bytes : Nat) (gap : Gap) : Gap :=
  ⟨tokens + gap.position, gap.found.map (Token.shift bytes)⟩

def Progress.shift (tokens bytes : Nat) (progress : Progress) : Progress :=
  { progress with
    position := tokens + progress.position
    gaps := progress.gaps.map (Gap.shift tokens bytes) }

def shift (tokens bytes : Nat) (reading : Reading) : Reading :=
  { reading with
    gaps := reading.gaps.map (Gap.shift tokens bytes)
    consumed := tokens + reading.consumed
    leftover := reading.leftover.map (Token.shift bytes) }

namespace Progress

variable (tokens bytes : Nat) (progress : Progress)

@[simp] theorem stage_shift : (progress.shift tokens bytes).stage = progress.stage := rfl

private theorem miss_shift (slot : Slot) (found : Option Token) :
    (progress.shift tokens bytes).miss slot (found.map (Token.shift bytes)) =
      (progress.miss slot found).shift tokens bytes := rfl

private theorem takeNumber_shift (slot : Slot) (token : Token) :
    (progress.shift tokens bytes).takeNumber slot (token.shift bytes) =
      (progress.takeNumber slot token).shift tokens bytes := by
  rw [takeNumber_eq, takeNumber_eq]
  rw [Token.kind_shift, Token.number?_shift]
  split
  next => rfl
  next =>
    split
    next => rfl
    next => rfl

private theorem take?_shift (token : Token) :
    (progress.shift tokens bytes).take? (token.shift bytes) =
      (progress.take? token).map (shift tokens bytes) := by
  rw [take?_eq, take?_eq, stage_shift]
  cases progress.stage with
  | awaiting slot => simp only [takeNumber_shift, Option.map_some]
  | whole whole =>
      simp only [Token.kind_shift, Option.map_map]
      rfl

private theorem finish_shift (leftover : List Token) :
    (progress.shift tokens bytes).finish (leftover.map (Token.shift bytes)) =
      (progress.finish leftover).shift tokens bytes := by
  rw [finish_eq, finish_eq, stage_shift]
  cases progress.stage with
  | awaiting slot =>
      have missed := progress.miss_shift tokens bytes slot none
      rw [Option.map_none] at missed
      simp only [missed]
      simp [Reading.shift, shift]
  | whole whole => simp [Reading.shift, shift]

theorem read_shift (rest : List Token) :
    (progress.shift tokens bytes).read (rest.map (Token.shift bytes)) =
      (progress.read rest).shift tokens bytes := by
  induction rest generalizing progress with
  | nil => exact finish_shift tokens bytes progress []
  | cons token rest ih =>
      rw [List.map_cons, read_cons, read_cons, take?_shift]
      cases progress.take? token with
      | some next => exact ih next
      | none => exact finish_shift tokens bytes progress (token :: rest)

end Progress

/-! ## Diagnostics -/

section

variable (count bytes : Nat) (reading : Reading) {tokens later : List Token}

private theorem Gap.diagnostic_shift (ends : Token.endOfLast later = bytes + Token.endOfLast tokens)
    (gap : Gap) :
    (gap.shift count bytes).diagnostic later = (gap.diagnostic tokens).shift count bytes := by
  obtain ⟨position, found⟩ := gap
  cases found with
  | some token => rfl
  | none =>
      simp only [shift, diagnostic, Option.map_none, Diagnostic.ofEnd, Diagnostic.shift,
        Text.Span.empty, Text.Span.shift, ends]

private theorem leftoverDiagnostics_shift :
    (reading.shift count bytes).leftoverDiagnostics =
      reading.leftoverDiagnostics.map (Diagnostic.shift count bytes) := by
  obtain ⟨formula, gaps, consumed, leftover⟩ := reading
  cases leftover with
  | nil => rfl
  | cons token rest => simp [leftoverDiagnostics, Diagnostic.ofLeftover, shift, Diagnostic.ofToken,
      Diagnostic.shift, Token.shift]

/-- Where the last token ends is all that diagnostics need of the tokens
themselves. -/
theorem diagnostics_shift (ends : Token.endOfLast later = bytes + Token.endOfLast tokens) :
    (reading.shift count bytes).diagnostics later =
      (reading.diagnostics tokens).map (Diagnostic.shift count bytes) := by
  have gaps : (reading.shift count bytes).gapDiagnostics later =
      (reading.gapDiagnostics tokens).map (Diagnostic.shift count bytes) := by
    simp only [gapDiagnostics, shift, List.map_map]
    exact List.map_congr_left fun gap _ => Gap.diagnostic_shift count bytes ends gap
  rw [diagnostics, diagnostics, List.map_append, gaps, leftoverDiagnostics_shift]

end

end Reading

end DiceLanguage
