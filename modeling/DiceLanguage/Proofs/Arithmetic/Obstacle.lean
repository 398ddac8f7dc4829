import DiceLanguage.Proofs.Arithmetic.Numeral
import DiceLanguage.Proofs.Arithmetic.Places
import DiceLanguage.Proofs.Text.Boundary

/-!
# The first obstacle of an evaluation

What an evaluation did not expect is the first text after which no expression
can follow, and where it misses something an expression is begun but not whole:
main statement `evaluate_obstacle`.
-/

set_option autoImplicit false

namespace DiceLanguage.Arithmetic

open Text

/-- Whether a text is an expression, however deep its groups are nested. -/
def IsExpression (text : String) : Prop :=
  ∃ expression, Derives .sum (symbols text) expression

/-! ## Completion -/

private theorem OpensAtom.closed_sum {limit : Nat} {opening atom : List Symbol}
    (opens : OpensAtom limit opening) (derived : DerivesWithin limit .atom atom) :
    DerivesWithin limit .sum (opening ++ atom) := by
  obtain ⟨sums, product, split, opens, derived⟩ := opens.closed derived
  rw [split]
  exact opens.closed derived

/-- A sum in the innermost group is completed by closing all groups. -/
private theorem OpensGroups.closed {count : Nat} {outer sum : List Symbol}
    (opens : OpensGroups count outer) (derived : DerivesWithin (nestingLimit - count) .sum sum) :
    DerivesWithin nestingLimit .sum (outer ++ sum ++ List.replicate count .closing) := by
  induction opens generalizing sum with
  | none => simpa using derived
  | @group count outer inner _ room opens ih =>
      obtain ⟨expression, derived, shallow⟩ := derived
      have grouped : DerivesWithin (nestingLimit - count) .atom (.opening :: sum ++ [.closing]) :=
        ⟨.group expression, .group derived, by rw [Expression.depth]; omega⟩
      simpa [List.replicate_succ] using ih (opens.closed_sum grouped)

def Place.completing : Place → List Symbol
  | .operand depth => .literal 0 :: List.replicate depth .closing
  | .operator depth => List.replicate depth .closing

private theorem Leads.completes {symbols : List Symbol} {stage : Stage}
    (leads : Leads symbols stage) :
    DerivesWithin nestingLimit .sum (symbols ++ stage.place.completing) := by
  cases leads with
  | awaiting groups opens =>
      have zero : Derives .atom [.literal 0] (.literal 0) := .literal
      have closed := groups.closed (opens.closed_sum ⟨_, zero, Nat.zero_le _⟩)
      simpa [Stage.place, Place.completing] using closed
  | holding groups opens derived =>
      have closed := groups.closed (opens.closed derived)
      simpa [Stage.place, Place.completing] using closed

/-! ## Texts around an obstacle -/

private theorem symbols_append {before after : String}
    (boundary : IsBoundary Lexeme.role before.toList after.toList) :
    symbols (before ++ after) = symbols before ++ symbols after := by
  simp [symbols, Lexeme.scan, pieces_append_of_isBoundary boundary, Lexeme.ofPiece, Piece.shift]

def closings (count : Nat) : String := String.ofList (List.replicate count ')')

private theorem isBoundary_closings (before : List Char) (count : Nat) :
    IsBoundary Lexeme.role before (closings count).toList := by
  refine .of_head fun first head => ?_
  rw [closings, String.toList_ofList, List.head?_replicate] at head
  split at head <;> cases head
  decide

private theorem symbols_closings (count : Nat) :
    symbols (closings count) = List.replicate count .closing := by
  induction count with
  | zero => rfl
  | succ count ih =>
      have first : closings (count + 1) = ")" ++ closings count :=
        String.toList_injective (by simp [closings, List.replicate_succ])
      rw [first, symbols_append (isBoundary_closings _ count), ih]
      rfl

/-- A text that completes an expression from a place on. The blank before it
keeps it apart from what has been read. -/
def Place.completion : Place → String
  | .operand depth => " 0" ++ closings depth
  | .operator depth => " " ++ closings depth

private theorem Place.symbols_completion (place : Place) :
    symbols place.completion = place.completing := by
  cases place <;>
    rw [completion, symbols_append (isBoundary_closings _ _), symbols_closings] <;> rfl

private theorem isBoundary_completion (before : List Char) (place : Place) :
    IsBoundary Lexeme.role before place.completion.toList := by
  refine .of_head fun first head => ?_
  cases place <;> (simp [Place.completion] at head; cases head; decide)

private theorem isExpression_completed {text : String} {stage : Stage}
    (taken : (Lexeme.scan text).foldlM Stage.take Stage.initial = .ok stage) :
    IsExpression (text ++ stage.place.completion) := by
  obtain ⟨expression, derived, _⟩ := (Leads.initial.takes taken).completes
  refine ⟨expression, ?_⟩
  rw [symbols_append (isBoundary_completion _ _), Place.symbols_completion]
  exact derived

private theorem symbols_cons {characters later : List Char}
    (cut : Piece.IsCut Lexeme.role characters)
    (boundary : IsBoundary Lexeme.role characters later) :
    symbols (String.ofList (characters ++ later)) =
      .ofPiece characters :: symbols (String.ofList later) := by
  rw [String.ofList_append, symbols_append (by simpa using boundary)]
  simp [symbols, Lexeme.scan, cut.pieces_eq, Lexeme.ofPiece]

/-- The first symbol has the place of the text it begins with, though a run of
digits may go on. -/
private theorem exists_symbols_cons {characters : List Char}
    (cut : Piece.IsCut Lexeme.role characters) (later : List Char) :
    ∃ symbol rest, symbols (String.ofList (characters ++ later)) = symbol :: rest ∧
      ∀ place : Place, place.take? symbol = place.take? (.ofPiece characters) := by
  rcases cut with ⟨mark, rfl, alone⟩ | ⟨nonempty, joins⟩
  · have boundary : IsBoundary Lexeme.role [mark] later := .of_last (by simp [alone])
    exact ⟨_, _, symbols_cons (.inl ⟨mark, rfl, alone⟩) boundary, fun _ => rfl⟩
  · obtain ⟨first, others, rfl⟩ := List.exists_cons_of_ne_nil nonempty
    have joining := joins first List.mem_cons_self
    have solid : Lexeme.role first ≠ .separating := by simp [joining]
    obtain ⟨run, after, together, cut, boundary, _⟩ := exists_pieces_cons solid (others ++ later)
    obtain ⟨_, rest, rfl⟩ := List.exists_cons_of_ne_nil cut.ne_nil
    rw [List.cons_append, together]
    refine ⟨_, _, symbols_cons cut boundary, fun place => ?_⟩
    obtain ⟨rfl, _⟩ := List.cons.inj together
    have digits := fun character member =>
      Lexeme.isDigit_of_role (cut.forall_joining joining character member)
    have others := fun character member => Lexeme.isDigit_of_role (joins character member)
    rw [Symbol.ofPiece_of_isDigit digits, Symbol.ofPiece_of_isDigit others]
    exact place.take?_literal_eq _ _

private theorem not_isExpression_of_takes {text : String} {place : Place}
    (taken : (symbols text).foldlM Place.take? (.operand 0) = some place)
    (unfinished : place ≠ .operator 0) : ¬IsExpression text := by
  rintro ⟨expression, derived⟩
  rw [derived.takes 0] at taken
  cases taken
  exact unfinished rfl

/-- What stands before a lexeme has the earlier lexemes, and no expression goes
on over a lexeme that has no place after them. -/
private theorem exists_obstacle {text : String} {earlier later : List Lexeme} {lexeme : Lexeme}
    {place : Place} (scanned : Lexeme.scan text = earlier ++ lexeme :: later)
    (taken : (earlier.map Lexeme.symbol).foldlM Place.take? (.operand 0) = some place)
    (refused : place.take? lexeme.symbol = none) :
    ∃ before after, text = before ++ lexeme.text ++ after ∧
      byteLength before.toList = lexeme.position ∧ Lexeme.scan before = earlier ∧
      ∀ other, ¬IsExpression (before ++ lexeme.text ++ other) := by
  obtain ⟨pieces, others, cut, rfl, last⟩ := List.map_eq_append_iff.mp scanned
  obtain ⟨piece, following, rfl, rfl, rfl⟩ := List.map_eq_cons_iff.mp last
  obtain ⟨before, after, together, begins, exactly, boundary⟩ := exists_boundary_of_pieces cut
  have whole := (isCut_of_mem_pieces (cut ▸ List.mem_append_right _ List.mem_cons_self)).1
  have scanned : Lexeme.scan (String.ofList before) = pieces.map Lexeme.ofPiece := by
    rw [Lexeme.scan, String.toList_ofList, exactly]
  refine ⟨String.ofList before, String.ofList after, ?_, ?_, scanned, ?_⟩
  · exact String.toList_injective (by simp [together, Lexeme.ofPiece])
  · rw [String.toList_ofList, begins, Lexeme.ofPiece]
  · rintro other ⟨expression, derived⟩
    obtain ⟨symbol, rest, first, same⟩ := exists_symbols_cons whole other.toList
    have goesOn : (Lexeme.ofPiece piece).text ++ other =
        String.ofList (piece.characters ++ other.toList) := by
      simp [Lexeme.ofPiece]
    have apart : IsBoundary Lexeme.role before (piece.characters ++ other.toList) :=
      boundary.of_append.extend whole.ne_nil
    have stuck : place.take? symbol = none := (same place).trans refused
    have leads := derived.takes 0
    rw [String.append_assoc, goesOn, symbols_append (by simpa using apart), first, symbols,
      scanned] at leads
    simp only [List.foldlM_append, List.foldlM_cons, taken, stuck, Option.bind_eq_bind,
      Option.bind_some, Option.bind_none, reduceCtorEq] at leads

/-- An unexpected text is the first that no expression goes on over, and what
an evaluation calls unfinished is no expression but begins one. -/
theorem evaluate_obstacle (text : String) :
    (∀ position found, evaluate text = .error (.unexpected position found) →
      found ≠ "" ∧ ∃ before after, text = before ++ found ++ after ∧
        byteLength before.toList = position ∧ (∃ later, IsExpression (before ++ later)) ∧
        ∀ later, ¬IsExpression (before ++ found ++ later)) ∧
    (evaluate text = .error .unfinished →
      ¬IsExpression text ∧ ∃ later, IsExpression (text ++ later)) := by
  constructor
  · intro position found failed
    obtain ⟨_, _, _, _, nonempty⟩ := exists_append_of_evaluate failed
    rcases bind_eq_error_cases failed with failed | ⟨stage, _, failed⟩
    · obtain ⟨earlier, lexeme, later, reached, scanned, taken, failed⟩ :=
        Stage.exists_failed_of_takes failed
      have refused := Stage.take?_place_of_unexpected failed
      have leads := Stage.foldlM_take?_place_of_takes taken
      obtain ⟨before, after, together, begins, scans, stuck⟩ :=
        exists_obstacle scanned leads refused
      cases Stage.fails_of_take failed with
      | numeric isNumeric => cases isNumeric
      | unexpected =>
          rw [← scans] at taken
          exact ⟨nonempty, before, after, together, begins, ⟨_, isExpression_completed taken⟩,
            stuck⟩
    · exact absurd failed Stage.ne_unexpected_of_finish
  · intro failed
    rcases bind_eq_error_cases failed with failed | ⟨stage, taken, unfinished⟩
    · obtain ⟨lexeme, _, fails⟩ := Stage.exists_fails_of_takes failed
      cases fails with
      | numeric isNumeric => cases isNumeric
    · have leads := Stage.foldlM_take?_place_of_takes taken
      exact ⟨not_isExpression_of_takes leads (Stage.place_ne_of_unfinished unfinished), _,
        isExpression_completed taken⟩

-- The second literal stays unexpected when more digits follow it.
theorem evaluate_obstacle_literal :
    evaluate "2*(12 34)" = .error (.unexpected 6 "34") ∧
      (∃ before after, "2*(12 34)" = before ++ "34" ++ after ∧ byteLength before.toList = 6 ∧
        (∃ later, IsExpression (before ++ later)) ∧
        ∀ later, ¬IsExpression (before ++ "34" ++ later)) ∧
      evaluate "2*(12" = .error .unfinished ∧
      ¬IsExpression "2*(12" ∧ ∃ later, IsExpression ("2*(12" ++ later) := by
  have unexpected : evaluate "2*(12 34)" = .error (.unexpected 6 "34") := by rfl
  have unfinished : evaluate "2*(12" = .error .unfinished := by rfl
  obtain ⟨_, obstacle⟩ := (evaluate_obstacle "2*(12 34)").1 6 "34" unexpected
  exact ⟨unexpected, obstacle, unfinished, (evaluate_obstacle "2*(12").2 unfinished⟩

end DiceLanguage.Arithmetic
