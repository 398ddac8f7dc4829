import DiceLanguage.Proofs.Text.Pieces

/-!
# Pieces in their places

The pieces of a text stand in it one after the other, and only characters that
separate are left out between them.
-/

set_option autoImplicit false

namespace DiceLanguage.Text

variable {role : Char → Role}

/-- Pieces and separators make up some characters that begin at a given byte. -/
inductive Tiles (role : Char → Role) : Nat → List Char → List Piece → Prop where
  | done {start} : Tiles role start [] []
  | separator {start character rest pieces} :
      role character = .separating → Tiles role (start + character.utf8Size) rest pieces →
      Tiles role start (character :: rest) pieces
  | piece {start characters rest pieces} :
      Piece.IsCut role characters → Tiles role (start + byteLength characters) rest pieces →
      Tiles role start (characters ++ rest) (⟨start, characters⟩ :: pieces)

theorem Piece.IsCut.ne_nil {characters : List Char} (cut : IsCut role characters) :
    characters ≠ [] := by
  rcases cut with ⟨mark, rfl, _⟩ | ⟨nonempty, _⟩
  · exact List.cons_ne_nil mark []
  · exact nonempty

/-- A text that begins with no separator begins with its first piece. -/
theorem exists_pieces_cons {character : Char} (solid : role character ≠ .separating)
    (rest : List Char) :
    ∃ characters after, character :: rest = characters ++ after ∧
      Piece.IsCut role characters ∧ IsBoundary role characters after ∧
      pieces role (character :: rest) =
        ⟨0, characters⟩ :: (pieces role after).map (Piece.shift (byteLength characters)) := by
  cases part : role character with
  | separating => exact absurd part solid
  | alone =>
      have divided := pieces_append_alone part [] rest
      simp only [List.nil_append, pieces_nil, byteLength_nil, Nat.zero_add] at divided
      refine ⟨[character], rest, rfl, .inl ⟨character, rfl, part⟩, ?_, ?_⟩
      · exact .of_last (by simp [part])
      · simpa using divided
  | joining =>
      let joins (other : Char) : Bool := role other = .joining
      have together := List.takeWhile_append_dropWhile (p := joins) (l := character :: rest)
      have first : (character :: rest).takeWhile joins ≠ [] := by simp [joins, part]
      have joined : ∀ other ∈ (character :: rest).takeWhile joins, role other = .joining := by
        intro other member
        exact of_decide_eq_true (List.all_eq_true.mp List.all_takeWhile other member)
      have closed : ∀ other, ((character :: rest).dropWhile joins).head? = some other →
          role other ≠ .joining := by
        intro other head
        have outside := List.head?_dropWhile_not joins (character :: rest)
        rw [head] at outside
        exact of_decide_eq_false outside
      refine ⟨_, _, together.symm, .inr ⟨first, joined⟩, .of_head closed, ?_⟩
      have divided : pieces role
          ((character :: rest).takeWhile joins ++ (character :: rest).dropWhile joins) = _ :=
        pieces_append_of_head closed
      rwa [together, pieces_joining first joined, List.singleton_append] at divided

private theorem tiles_shift_pieces (start : Nat) (text : List Char) :
    Tiles role start text ((pieces role text).map (Piece.shift start)) := by
  -- What comes after the first piece may be much shorter than the text, so the
  -- induction is on the length.
  induction size : text.length using Nat.strongRecOn generalizing start text with
  | _ length ih =>
      cases text with
      | nil => exact .done
      | cons character rest =>
          by_cases separates : role character = .separating
          · have divided := pieces_append_separator role separates [] rest
            simp only [List.nil_append, pieces_nil, byteLength_nil, Nat.zero_add] at divided
            rw [divided, Piece.map_shift_shift]
            exact .separator separates (ih rest.length (by simp [← size]) _ _ rfl)
          · obtain ⟨characters, after, together, cut, _, first⟩ :=
              exists_pieces_cons separates rest
            have positive := List.length_pos_iff.mpr cut.ne_nil
            have shorter : after.length < length := by
              rw [← size, together, List.length_append]
              omega
            rw [first, together, List.map_cons, Piece.map_shift_shift]
            exact .piece cut (ih _ shorter _ _ rfl)

theorem tiles_pieces (text : List Char) : Tiles role 0 text (pieces role text) := by
  have tiles : Tiles role 0 text _ := tiles_shift_pieces 0 text
  rwa [Piece.shift_zero, List.map_id] at tiles

namespace Tiles

variable {start : Nat} {text : List Char} {pieces : List Piece}

theorem start_le (tiles : Tiles role start text pieces) :
    ∀ piece ∈ pieces, start ≤ piece.start := by
  induction tiles with
  | done =>
      intro piece member
      cases member
  | separator _ _ ih =>
      intro piece member
      exact Nat.le_of_add_right_le (ih piece member)
  | piece _ _ ih =>
      intro piece member
      rcases List.mem_cons.mp member with rfl | member
      · exact Nat.le_refl _
      · exact Nat.le_of_add_right_le (ih piece member)

theorem pairwise (tiles : Tiles role start text pieces) :
    pieces.Pairwise fun earlier later => earlier.span.stop ≤ later.span.start := by
  induction tiles with
  | done => exact .nil
  | separator _ _ ih => exact ih
  | piece _ others ih => exact .cons others.start_le ih

/-- Each piece stands in the text at the byte where it begins. -/
theorem exists_append (tiles : Tiles role start text pieces) :
    ∀ piece ∈ pieces, ∃ before after, text = before ++ piece.characters ++ after ∧
      piece.start = start + byteLength before := by
  induction tiles with
  | done =>
      intro piece member
      cases member
  | @separator _ character _ _ _ _ ih =>
      intro piece member
      obtain ⟨before, after, rfl, begins⟩ := ih piece member
      refine ⟨character :: before, after, rfl, ?_⟩
      rw [begins, byteLength_cons, Nat.add_assoc]
  | @piece _ characters rest _ _ _ ih =>
      intro piece member
      rcases List.mem_cons.mp member with rfl | member
      · exact ⟨[], rest, rfl, rfl⟩
      · obtain ⟨before, after, rfl, begins⟩ := ih piece member
        refine ⟨characters ++ before, after, by simp only [List.append_assoc], ?_⟩
        rw [begins, byteLength_append, Nat.add_assoc]

end Tiles

end DiceLanguage.Text
