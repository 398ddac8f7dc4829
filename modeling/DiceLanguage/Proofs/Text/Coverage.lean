import DiceLanguage.Proofs.Text.Boundary
import DiceLanguage.Proofs.Text.Bytes

/-!
# Coverage by pieces

The pieces of a text leave out its separators and nothing else, byte for byte.
Pieces that meet without a separator between them are not both runs.
-/

set_option autoImplicit false

namespace DiceLanguage.Text

variable {role : Char → Role}

def Span.Contains (span : Span) (place : Nat) : Prop := span.start ≤ place ∧ place < span.stop

def Piece.IsAlone (role : Char → Role) (piece : Piece) : Prop :=
  ∃ mark, piece.characters = [mark] ∧ role mark = .alone

private theorem Piece.IsCut.role_ne_separating {characters : List Char}
    (cut : IsCut role characters)
    {character : Char} (member : character ∈ characters) : role character ≠ .separating := by
  rcases cut with ⟨mark, rfl, alone⟩ | ⟨_, joins⟩
  · rw [List.mem_singleton.mp member, alone]
    simp
  · rw [joins character member]
    simp

/-- A byte belongs to a piece exactly when it is not that of a separator. -/
theorem Tiles.exists_contains_iff
    (separating : ∀ character, role character = .separating ↔ isSeparator character = true)
    {start : Nat} {text : List Char} {pieces : List Piece} (tiles : Tiles role start text pieces)
    {place : Nat} {byte : UInt8} (stands : (bytes text)[place]? = some byte) :
    (∃ piece ∈ pieces, piece.span.Contains (start + place)) ↔ byte ∉ separatorBytes := by
  induction tiles generalizing place with
  | done => simp [bytes] at stands
  | @separator start character rest pieces separates others ih =>
      rw [bytes_cons, List.getElem?_append, String.length_utf8EncodeChar] at stands
      split at stands
      next inside =>
        have separator : byte ∈ separatorBytes :=
          (mem_separatorBytes_iff (List.mem_of_getElem? stands)).mpr
            ((separating character).mp separates)
        refine iff_of_false ?_ (not_not_intro separator)
        rintro ⟨piece, member, begins, _⟩
        have later := others.start_le piece member
        simp only [Piece.span, Span.of] at begins
        omega
      next outside =>
        have same : start + character.utf8Size + (place - character.utf8Size) = start + place := by
          omega
        rw [← ih stands, same]
  | @piece start characters rest pieces cut _ ih =>
      rw [bytes_append, List.getElem?_append, length_bytes] at stands
      split at stands
      next inside =>
        obtain ⟨character, member, among⟩ := List.mem_flatMap.mp (List.mem_of_getElem? stands)
        have solid := cut.role_ne_separating member
        rw [ne_eq, separating, ← mem_separatorBytes_iff among] at solid
        refine iff_of_true ⟨_, List.mem_cons_self, ?_⟩ solid
        exact ⟨Nat.le_add_right _ _, Nat.add_lt_add_left inside _⟩
      next outside =>
        have same : start + byteLength characters + (place - byteLength characters) =
            start + place := by
          omega
        have beyond : ¬(Piece.span ⟨start, characters⟩).Contains (start + place) := by
          simp only [Span.Contains, Piece.span, Span.of]
          omega
        rw [← ih stands, same]
        simp only [List.mem_cons, exists_eq_or_imp, beyond, false_or]

section

variable {text : List Char} {earlier later : Piece}

theorem Piece.start_lt_stop (member : earlier ∈ pieces role text) :
    earlier.span.start < earlier.span.stop := by
  have nonempty := (isCut_of_mem_pieces member).1.ne_nil
  exact Nat.lt_add_of_pos_right (Nat.pos_of_ne_zero (mt byteLength_eq_zero_iff.mp nonempty))

private theorem Piece.mem_before_of_stop_le {before after : List Piece}
    (cut : pieces role text = before ++ later :: after) (member : earlier ∈ pieces role text)
    (apart : earlier.span.stop ≤ later.span.start) : earlier ∈ before := by
  have tiles : Tiles role 0 text (pieces role text) := tiles_pieces text
  have ordered := tiles.pairwise
  rw [cut, List.pairwise_append, List.pairwise_cons] at ordered
  have span := start_lt_stop member
  rw [cut, List.mem_append, List.mem_cons] at member
  rcases member with inside | rfl | beyond
  · exact inside
  · exact absurd apart (Nat.not_le_of_lt span)
  · have second : later ∈ pieces role text := by simp [cut]
    have laterSpan := start_lt_stop second
    have behind := ordered.2.1.1 earlier beyond
    omega

private theorem Piece.exists_append_of_stop_eq (member : earlier ∈ pieces role text)
    (ends : earlier.span.stop = byteLength text) : ∃ before, text = before ++ earlier.characters := by
  obtain ⟨before, after, together, begins⟩ := (tiles_pieces text).exists_append earlier member
  have length := congrArg byteLength together
  simp only [Piece.span, Span.of] at ends
  simp only [byteLength_append] at length
  have nothing : byteLength after = 0 := by omega
  rw [byteLength_eq_zero_iff.mp nothing, List.append_nil] at together
  exact ⟨before, together⟩

/-- Of two pieces that meet, one stands alone. -/
theorem Piece.isAlone_of_adjacent (first : earlier ∈ pieces role text)
    (second : later ∈ pieces role text) (adjacent : earlier.span.stop = later.span.start) :
    earlier.IsAlone role ∨ later.IsAlone role := by
  obtain ⟨before, after, cut⟩ := List.append_of_mem second
  have among := mem_before_of_stop_le cut first (Nat.le_of_eq adjacent)
  obtain ⟨front, rest, _, begins, rfl, boundary⟩ := exists_boundary_of_pieces cut
  obtain ⟨lead, rfl⟩ := exists_append_of_stop_eq among (adjacent.trans begins.symm)
  rcases (isCut_of_mem_pieces first).1 with alone | ⟨nonempty, joins⟩
  · exact .inl alone
  rcases (isCut_of_mem_pieces second).1 with alone | ⟨laterNonempty, laterJoins⟩
  · exact .inr alone
  -- Two runs that meet would be one.
  have last := List.getLast?_eq_some_getLast nonempty
  have next := List.head?_eq_some_head laterNonempty
  have refused := boundary _ _ (by rw [List.getLast?_append, last, Option.some_or])
    (by rw [List.head?_append, next, Option.some_or]) (joins _ (List.getLast_mem nonempty))
  exact absurd (laterJoins _ (List.head_mem laterNonempty)) refused

end

end DiceLanguage.Text
