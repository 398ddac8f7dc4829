/-!
# Sets of code points

A set of code points is a list of ranges in ascending order. A search ends at
the first range that lies above the code point sought, and in an ascending
list it finds exactly the code points that some range holds.
-/

set_option autoImplicit false

namespace DiceLanguage.Text

/-- The code points from `first` to `last`, both included. -/
structure CodePointRange where
  first : Nat
  last : Nat

/-- Whether a code point lies in one of some ascending ranges. -/
def inRanges (code : Nat) : List CodePointRange → Bool
  | [] => false
  | range :: rest =>
      if code < range.first then false
      else if code ≤ range.last then true
      else inRanges code rest

def isAscending : List CodePointRange → Bool
  | [] => true
  | [range] => range.first ≤ range.last
  | range :: next :: rest =>
      range.first ≤ range.last && range.last < next.first && isAscending (next :: rest)

private theorem isAscending_rest {range : CodePointRange} {rest : List CodePointRange}
    (ascending : isAscending (range :: rest) = true) : isAscending rest = true := by
  cases rest with
  | nil => rfl
  | cons next others =>
      simp only [isAscending, Bool.and_eq_true] at ascending
      exact ascending.2

/-- Later ranges lie above the first one. -/
private theorem first_lt_of_mem_rest {range other : CodePointRange} {rest : List CodePointRange}
    (ascending : isAscending (range :: rest) = true) (member : other ∈ rest) :
    range.first < other.first := by
  induction rest generalizing range with
  | nil => simp at member
  | cons next others ih =>
      have nextAscending := isAscending_rest ascending
      simp only [isAscending, Bool.and_eq_true, decide_eq_true_eq] at ascending
      rcases List.mem_cons.mp member with rfl | later
      · omega
      · have := ih nextAscending later
        omega

theorem inRanges_iff {code : Nat} {ranges : List CodePointRange}
    (ascending : isAscending ranges = true) :
    inRanges code ranges = true ↔
      ∃ range ∈ ranges, range.first ≤ code ∧ code ≤ range.last := by
  induction ranges with
  | nil => simp [inRanges]
  | cons range rest ih =>
      have above : ∀ other ∈ rest, range.first < other.first :=
        fun _ member => first_lt_of_mem_rest ascending member
      simp only [inRanges, List.mem_cons, exists_eq_or_imp]
      split
      next below =>
        simp only [Bool.false_eq_true, false_iff, not_or, not_exists, not_and]
        refine ⟨by omega, fun other member => ?_⟩
        have := above other member
        omega
      next notBelow =>
        split
        next within => simp; omega
        next beyond =>
          rw [ih (isAscending_rest ascending)]
          constructor
          · exact Or.inr
          · rintro (bounds | found)
            · omega
            · exact found

end DiceLanguage.Text
