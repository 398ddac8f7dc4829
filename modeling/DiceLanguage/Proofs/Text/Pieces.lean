import DiceLanguage.Text.Pieces.Append

/-!
# Pieces around a mark

A character of its own divides a text as a separator does, and is a piece
between the pieces on both its sides. A run of joining characters is one piece.
-/

set_option autoImplicit false

namespace DiceLanguage.Text

open Cutting

variable {role : Char → Role}

theorem pieces_append_alone {mark : Char} (alone : role mark = .alone)
    (before after : List Char) :
    pieces role (before ++ mark :: after) =
      pieces role before ++ ⟨byteLength before, [mark]⟩ ::
        (pieces role after).map (Piece.shift (byteLength before + mark.utf8Size)) := by
  have reached : (before.foldl (step role) initial).step role mark =
      initial.after
        (⟨byteLength before, [mark]⟩ :: (before.foldl (step role) initial).close.pieces)
        (byteLength before + mark.utf8Size) := by
    have passed := passed_foldl role initial before
    simp only [step, alone, single]
    rw [start_close, passed]
    simp [Cutting.after, initial, Cutting.passed, run_close]
  simp only [pieces, List.foldl_append, List.foldl_cons]
  rw [reached, foldl_step_after, close_after]
  simp [Cutting.after, List.map_reverse]

private theorem foldl_step_joining (cutting : Cutting) {text : List Char}
    (joining : ∀ character ∈ text, role character = .joining) :
    text.foldl (step role) cutting = { cutting with run := text.reverse ++ cutting.run } := by
  induction text generalizing cutting with
  | nil => rfl
  | cons character rest ih =>
      have first : cutting.step role character = cutting.join character := by
        simp only [step, joining character List.mem_cons_self]
      rw [List.foldl_cons, first,
        ih _ fun other member => joining other (List.mem_cons_of_mem _ member)]
      simp [join]

theorem pieces_joining {run : List Char} (nonempty : run ≠ [])
    (joining : ∀ character ∈ run, role character = .joining) :
    pieces role run = [⟨0, run⟩] := by
  rw [pieces, foldl_step_joining initial joining]
  cases reversed : run.reverse with
  | nil => exact absurd (List.reverse_eq_nil_iff.mp reversed) nonempty
  | cons last others =>
      have whole : (last :: others).reverse = run := by rw [← reversed, List.reverse_reverse]
      simp [initial, close, ← whole]

theorem pieces_nil : pieces role [] = [] := rfl

theorem Piece.shift_zero : Piece.shift 0 = id := by
  funext piece
  simp [Piece.shift]

theorem Piece.map_shift_shift (distance further : Nat) (pieces : List Piece) :
    (pieces.map (shift further)).map (shift distance) =
      pieces.map (shift (distance + further)) := by
  simp [shift, Function.comp_def, Nat.add_assoc]

/-- A text is divided for good wherever the character to come joins nothing. -/
theorem pieces_append_of_head {before rest : List Char}
    (closed : ∀ character, rest.head? = some character → role character ≠ .joining) :
    pieces role (before ++ rest) =
      pieces role before ++ (pieces role rest).map (Piece.shift (byteLength before)) := by
  cases rest with
  | nil => simp [pieces_nil]
  | cons character after =>
      cases part : role character with
      | separating =>
          have alone := pieces_append_separator role part [] after
          rw [List.nil_append] at alone
          rw [pieces_append_separator role part, alone]
          simp [pieces_nil, Piece.shift, Function.comp_def, Nat.add_assoc]
      | alone =>
          have alone := pieces_append_alone part [] after
          rw [List.nil_append] at alone
          rw [pieces_append_alone part, alone]
          simp [pieces_nil, Piece.shift, Function.comp_def, Nat.add_assoc]
      | joining => exact absurd part (closed character rfl)

/-! ## Pieces from a byte on -/

def piecesFrom (role : Char → Role) (start : Nat) (text : List Char) : List Piece :=
  (pieces role text).map (Piece.shift start)

theorem piecesFrom_zero (text : List Char) : piecesFrom role 0 text = pieces role text := by
  rw [piecesFrom, Piece.shift_zero, List.map_id]

theorem piecesFrom_append_of_head (start : Nat) (before : List Char) {rest : List Char}
    (closed : ∀ character, rest.head? = some character → role character ≠ .joining) :
    piecesFrom role start (before ++ rest) =
      piecesFrom role start before ++ piecesFrom role (start + byteLength before) rest := by
  rw [piecesFrom, pieces_append_of_head closed, List.map_append, Piece.map_shift_shift]
  rfl

theorem piecesFrom_alone (start : Nat) {mark : Char} (alone : role mark = .alone)
    (rest : List Char) :
    piecesFrom role start (mark :: rest) =
      ⟨start, [mark]⟩ :: piecesFrom role (start + mark.utf8Size) rest := by
  have divided := pieces_append_alone alone [] rest
  rw [List.nil_append, pieces_nil, byteLength_nil, List.nil_append, Nat.zero_add] at divided
  rw [piecesFrom, divided, List.map_cons, Piece.map_shift_shift]
  rfl

theorem piecesFrom_separators (start : Nat) {slice : List Char}
    (separating : ∀ character ∈ slice, role character = .separating) (rest : List Char) :
    piecesFrom role start (slice ++ rest) = piecesFrom role (start + byteLength slice) rest := by
  induction slice generalizing start with
  | nil => rfl
  | cons separator others ih =>
      rw [List.forall_mem_cons] at separating
      have divided := pieces_append_separator role separating.1 [] (others ++ rest)
      rw [List.nil_append, pieces_nil, byteLength_nil, List.nil_append, Nat.zero_add] at divided
      rw [byteLength_cons, ← Nat.add_assoc, ← ih _ separating.2, piecesFrom, List.cons_append,
        divided, Piece.map_shift_shift]
      rfl

theorem piecesFrom_run (start : Nat) {run rest : List Char} (nonempty : run ≠ [])
    (joining : ∀ character ∈ run, role character = .joining)
    (closed : ∀ character, rest.head? = some character → role character ≠ .joining) :
    piecesFrom role start (run ++ rest) =
      ⟨start, run⟩ :: piecesFrom role (start + byteLength run) rest := by
  have one : piecesFrom role start run = [⟨start, run⟩] := by
    rw [piecesFrom, pieces_joining nonempty joining]
    rfl
  rw [piecesFrom_append_of_head start run closed, one, List.singleton_append]

/-! ## Boundaries -/

/-- No run of joining characters goes on from one part of a text to the next. -/
def IsBoundary (role : Char → Role) (before after : List Char) : Prop :=
  ∀ last first, before.getLast? = some last → after.head? = some first →
    role last = .joining → role first ≠ .joining

theorem IsBoundary.of_head {before after : List Char}
    (closed : ∀ first, after.head? = some first → role first ≠ .joining) :
    IsBoundary role before after :=
  fun _ first _ head _ => closed first head

theorem IsBoundary.of_last {before after : List Char}
    (closed : ∀ last, before.getLast? = some last → role last ≠ .joining) :
    IsBoundary role before after :=
  fun last _ ends _ joins => absurd joins (closed last ends)

theorem pieces_append_of_isBoundary {before after : List Char}
    (boundary : IsBoundary role before after) :
    pieces role (before ++ after) =
      pieces role before ++ (pieces role after).map (Piece.shift (byteLength before)) := by
  rcases List.eq_nil_or_concat before with rfl | ⟨front, last, rfl⟩
  · simp [pieces_nil, Piece.shift_zero]
  · rw [List.concat_eq_append] at boundary ⊢
    cases part : role last with
    | separating =>
        have ended := pieces_append_separator role part front []
        simp [ended, pieces_append_separator role part, pieces_nil]
    | alone =>
        have ended := pieces_append_alone part front []
        simp [ended, pieces_append_alone part, pieces_nil]
    | joining =>
        apply pieces_append_of_head
        intro first head
        exact boundary last first (by simp) head part

/-- Roles that agree on a text cut it alike. -/
theorem pieces_congr {other : Char → Role} {text : List Char}
    (agree : ∀ character ∈ text, role character = other character) :
    pieces role text = pieces other text := by
  have steps : ∀ cutting : Cutting,
      text.foldl (step role) cutting = text.foldl (step other) cutting := by
    induction text with
    | nil => exact fun _ => rfl
    | cons character rest ih =>
        intro cutting
        rw [List.forall_mem_cons] at agree
        rw [List.foldl_cons, List.foldl_cons, step, step, agree.1]
        exact ih agree.2 _
  rw [pieces, pieces, steps]

/-! ## What pieces consist of -/

/-- A piece is one character that stands alone or a run of joining ones. -/
def Piece.IsCut (role : Char → Role) (characters : List Char) : Prop :=
  (∃ mark, characters = [mark] ∧ role mark = .alone) ∨
    characters ≠ [] ∧ ∀ character ∈ characters, role character = .joining

namespace Cutting

/-- The finished pieces are pieces indeed, the open run joins, and both are
made of the characters of a text. -/
structure IsCutFrom (role : Char → Role) (text : List Char) (cutting : Cutting) : Prop where
  pieces : ∀ piece ∈ cutting.pieces,
    Piece.IsCut role piece.characters ∧ piece.characters ⊆ text
  run : ∀ character ∈ cutting.run, role character = .joining
  inside : cutting.run ⊆ text

variable {text : List Char} {cutting : Cutting}

private theorem IsCutFrom.close (cut : cutting.IsCutFrom role text) :
    cutting.close.IsCutFrom role text := by
  obtain ⟨start, run, pieces⟩ := cutting
  cases run with
  | nil => exact cut
  | cons last others =>
      refine ⟨?_, by simp [Cutting.close], by simp [Cutting.close]⟩
      intro piece member
      rcases List.mem_cons.mp member with rfl | member
      · constructor
        · refine .inr ⟨by simp, ?_⟩
          intro character member
          exact cut.run character (List.mem_reverse.mp member)
        · intro character member
          exact cut.inside (List.mem_reverse.mp member)
      · exact cut.pieces piece member

private theorem IsCutFrom.step (cut : cutting.IsCutFrom role text) {character : Char}
    (member : character ∈ text) : (cutting.step role character).IsCutFrom role text := by
  have closed := cut.close
  unfold Cutting.step
  split
  next => exact ⟨closed.pieces, closed.run, closed.inside⟩
  next alone =>
    refine ⟨?_, closed.run, closed.inside⟩
    intro piece among
    rcases List.mem_cons.mp among with rfl | among
    · exact ⟨.inl ⟨character, rfl, alone⟩, by simpa using member⟩
    · exact closed.pieces piece among
  next joins =>
    refine ⟨cut.pieces, ?_, ?_⟩
    · intro other among
      rcases List.mem_cons.mp among with rfl | among
      · exact joins
      · exact cut.run other among
    · intro other among
      rcases List.mem_cons.mp among with rfl | among
      · exact member
      · exact cut.inside among

private theorem IsCutFrom.foldl_step (cut : cutting.IsCutFrom role text) {rest : List Char}
    (within : rest ⊆ text) : (rest.foldl (Cutting.step role) cutting).IsCutFrom role text := by
  induction rest generalizing cutting with
  | nil => exact cut
  | cons character rest ih =>
      exact ih (cut.step (within List.mem_cons_self))
        fun _ member => within (List.mem_cons_of_mem _ member)

end Cutting

theorem isCut_of_mem_pieces {text : List Char} {piece : Piece}
    (member : piece ∈ pieces role text) :
    Piece.IsCut role piece.characters ∧ piece.characters ⊆ text := by
  have start : Cutting.initial.IsCutFrom role text :=
    ⟨by simp [Cutting.initial], by simp [Cutting.initial], by simp [Cutting.initial]⟩
  exact (start.foldl_step (List.Subset.refl text)).close.pieces piece (List.mem_reverse.mp member)

end DiceLanguage.Text
