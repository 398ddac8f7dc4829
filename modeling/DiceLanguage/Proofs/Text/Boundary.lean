import DiceLanguage.Proofs.Text.Tiles

/-!
# Boundaries between pieces

Every piece of a text begins at a boundary, so what stands before it has the
earlier pieces and no others, whatever comes after it.
-/

set_option autoImplicit false

namespace DiceLanguage.Text

variable {role : Char → Role}

namespace IsBoundary

variable {front before after : List Char}

theorem of_append (boundary : IsBoundary role front (before ++ after)) :
    IsBoundary role front before :=
  fun last first ends head => boundary last first ends (by simp [head])

theorem extend (boundary : IsBoundary role front before) (nonempty : before ≠ []) :
    IsBoundary role front (before ++ after) := by
  obtain ⟨character, rest, rfl⟩ := List.exists_cons_of_ne_nil nonempty
  exact fun last first ends head => boundary last first ends head

theorem append (boundary : IsBoundary role front (before ++ after))
    (inner : IsBoundary role before after) : IsBoundary role (front ++ before) after := by
  cases before with
  | nil => simpa using boundary
  | cons character rest =>
      intro last first ends head
      exact inner last first (by simpa using ends) head

private theorem of_separating (separating : ∀ character ∈ before, role character = .separating) :
    IsBoundary role before after :=
  .of_last fun last ends => by simp [separating last (List.mem_of_getLast? ends)]

end IsBoundary

theorem Piece.IsCut.pieces_eq {characters : List Char} (cut : IsCut role characters) :
    pieces role characters = [⟨0, characters⟩] := by
  rcases cut with ⟨mark, rfl, alone⟩ | ⟨nonempty, joins⟩
  · simpa [pieces_nil] using pieces_append_alone alone [] []
  · exact pieces_joining nonempty joins

theorem Piece.IsCut.forall_joining {first : Char} {rest : List Char}
    (cut : IsCut role (first :: rest)) (joins : role first = .joining) :
    ∀ character ∈ first :: rest, role character = .joining := by
  rcases cut with ⟨mark, same, alone⟩ | ⟨_, all⟩
  · cases same
    simp [joins] at alone
  · exact all

private theorem pieces_of_separating {blanks : List Char}
    (separating : ∀ character ∈ blanks, role character = .separating) :
    pieces role blanks = [] := by
  induction blanks with
  | nil => rfl
  | cons blank rest ih =>
      obtain ⟨separates, others⟩ := List.forall_mem_cons.mp separating
      simpa [pieces_nil, ih others] using pieces_append_separator role separates [] rest

/-- Only separators stand before the first piece of a text. -/
private theorem exists_leading {text : List Char} {piece : Piece} {later : List Piece}
    (cut : pieces role text = piece :: later) :
    ∃ blanks after, text = blanks ++ (piece.characters ++ after) ∧
      byteLength blanks = piece.start ∧ (∀ character ∈ blanks, role character = .separating) ∧
      Piece.IsCut role piece.characters ∧ IsBoundary role piece.characters after := by
  induction text generalizing piece later with
  | nil => cases cut
  | cons character rest ih =>
      by_cases separates : role character = .separating
      · have divided := pieces_append_separator role separates [] rest
        rw [List.nil_append, cut, pieces_nil, List.nil_append, eq_comm,
          List.map_eq_cons_iff] at divided
        obtain ⟨first, others, inner, rfl, _⟩ := divided
        obtain ⟨blanks, after, rfl, begins, separating, whole⟩ := ih inner
        refine ⟨character :: blanks, after, rfl, by simp [Piece.shift, begins], ?_, whole⟩
        exact List.forall_mem_cons.mpr ⟨separates, separating⟩
      · obtain ⟨characters, after, together, whole, boundary, first⟩ :=
          exists_pieces_cons separates rest
        rw [cut] at first
        cases first
        exact ⟨[], after, together, rfl, by simp, whole, boundary⟩

/-- What stands before a piece has the earlier pieces and ends at a boundary. -/
theorem exists_boundary_of_pieces {text : List Char} {earlier later : List Piece} {piece : Piece}
    (cut : pieces role text = earlier ++ piece :: later) :
    ∃ before after, text = before ++ (piece.characters ++ after) ∧
      byteLength before = piece.start ∧ pieces role before = earlier ∧
      IsBoundary role before (piece.characters ++ after) := by
  -- The pieces after the first are shifted, so only their number carries over to the rest.
  induction count : earlier.length generalizing text earlier piece later with
  | zero =>
      obtain rfl := List.length_eq_zero_iff.mp count
      obtain ⟨blanks, after, together, begins, separating, _⟩ := exists_leading cut
      exact ⟨blanks, after, together, begins, pieces_of_separating separating,
        .of_separating separating⟩
  | succ count ih =>
      obtain ⟨head, others, rfl⟩ := List.exists_cons_of_length_eq_add_one count
      obtain ⟨blanks, rest, rfl, begins, separating, whole, boundary⟩ := exists_leading cut
      have closed : IsBoundary role (blanks ++ head.characters) rest :=
        .append (.of_separating separating) boundary
      have front : pieces role (blanks ++ head.characters) = [head] := by
        rw [pieces_append_of_isBoundary (.of_separating separating), whole.pieces_eq,
          pieces_of_separating separating, begins]
        rfl
      rw [← List.append_assoc, pieces_append_of_isBoundary closed, front, List.singleton_append,
        List.cons_append, List.cons.injEq, List.map_eq_append_iff] at cut
      obtain ⟨_, shifted, remaining, inner, rfl, last⟩ := cut
      obtain ⟨original, following, rfl, rfl, _⟩ := List.map_eq_cons_iff.mp last
      obtain ⟨before, after, rfl, starts, exactly, apart⟩ := ih inner (by simpa using count)
      refine ⟨blanks ++ head.characters ++ before, after, by simp [Piece.shift],
        by simp [Piece.shift, starts, Nat.add_assoc], ?_, closed.append apart⟩
      rw [pieces_append_of_isBoundary closed.of_append, front, exactly]
      rfl

end DiceLanguage.Text
