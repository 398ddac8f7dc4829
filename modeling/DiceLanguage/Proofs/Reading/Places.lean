import DiceLanguage.Proofs.Reading.Accepting

/-!
# Places of gaps

Tokens are taken one by one, so the gaps of a reading stand in order, each with
the token of its place, and what is left over begins where the reading stopped.
Only a number that is missing at the end is counted beyond the last token.
-/

set_option autoImplicit false

namespace DiceLanguage.Reading

/-- The gaps of a progress lie behind it in order, and all tokens from its
position on are still to be read. -/
structure Progress.Follows (tokens rest : List Token) (progress : Progress) : Prop where
  rest : tokens.drop progress.position = rest
  inside : progress.position ≤ tokens.length
  ordered : progress.gaps.Pairwise fun later earlier => earlier.position < later.position
  found : ∀ gap ∈ progress.gaps,
    gap.position < progress.position ∧ tokens[gap.position]? = gap.found

structure IsPlaced (tokens : List Token) (reading : Reading) : Prop where
  leftover : reading.leftover = tokens.drop reading.consumed
  consumed_le : reading.consumed ≤ tokens.length + 1
  ordered : reading.gaps.Pairwise fun earlier later => earlier.position < later.position
  found : ∀ gap ∈ reading.gaps,
    gap.position < reading.consumed ∧ tokens[gap.position]? = gap.found
  overrun : reading.consumed = tokens.length + 1 → ∃ gap ∈ reading.gaps, gap.position = tokens.length

namespace Progress.Follows

variable {tokens rest : List Token} {progress next : Progress} {token : Token}

private theorem position_lt (follows : Follows tokens (token :: rest) progress) :
    progress.position < tokens.length := by
  have within := follows.inside
  have remaining := congrArg List.length follows.rest
  simp only [List.length_drop, List.length_cons] at remaining
  omega

theorem getElem? (follows : Follows tokens (token :: rest) progress) :
    tokens[progress.position]? = some token := by
  have first := congrArg List.head? follows.rest
  rwa [List.head?_drop, List.head?_cons] at first

private theorem drop_succ (follows : Follows tokens (token :: rest) progress) :
    tokens.drop (progress.position + 1) = rest := by
  have others := congrArg List.tail follows.rest
  rwa [List.tail_drop, List.tail_cons] at others

private theorem advance (follows : Follows tokens (token :: rest) progress) (stage : Stage) :
    Follows tokens rest (progress.advance stage) where
  rest := follows.drop_succ
  inside := follows.position_lt
  ordered := follows.ordered
  found := by
    intro gap member
    obtain ⟨behind, found⟩ := follows.found gap member
    exact ⟨Nat.lt_succ_of_lt behind, found⟩

/-- A gap comes after those that are there already, and before all that is
still to be read. -/
private theorem gaps_miss (follows : Follows tokens rest progress) (slot : Slot)
    {found : Option Token} (stands : tokens[progress.position]? = found) :
    ((progress.miss slot found).gaps.Pairwise fun later earlier =>
      earlier.position < later.position) ∧
    ∀ gap ∈ (progress.miss slot found).gaps,
      gap.position < progress.position + 1 ∧ tokens[gap.position]? = gap.found := by
  constructor
  · apply List.Pairwise.cons
    · intro gap member
      exact (follows.found gap member).1
    · exact follows.ordered
  · intro gap member
    rcases List.mem_cons.mp member with rfl | member
    · exact ⟨Nat.lt_succ_self _, stands⟩
    · obtain ⟨behind, found⟩ := follows.found gap member
      exact ⟨Nat.lt_succ_of_lt behind, found⟩

private theorem miss (follows : Follows tokens (token :: rest) progress) (slot : Slot) :
    Follows tokens rest (progress.miss slot (some token)) where
  rest := follows.drop_succ
  inside := follows.position_lt
  ordered := (follows.gaps_miss slot follows.getElem?).1
  found := (follows.gaps_miss slot follows.getElem?).2

theorem take? (follows : Follows tokens (token :: rest) progress)
    (taken : progress.take? token = some next) : Follows tokens rest next := by
  rcases take?_cases taken with ⟨stage, _, rfl⟩ | ⟨slot, _, rfl⟩
  · exact follows.advance stage
  · exact follows.miss slot

/-- A reading that ends with a whole formula stays within its tokens. -/
private theorem finish_whole {whole : Whole} (follows : Follows tokens rest progress)
    (stands : progress.stage = .whole whole) : (progress.finish rest).IsPlaced tokens := by
  have inside := follows.inside
  simp only [finish_eq, stands]
  refine ⟨follows.rest.symm, Nat.le_succ_of_le inside, ?_, ?_, ?_⟩
  · exact List.pairwise_reverse.mpr follows.ordered
  · intro gap member
    exact follows.found gap (List.mem_reverse.mp member)
  · intro overrun
    simp only at overrun
    omega

/-- A reading that ends with a number missing leaves nothing over, and its last
gap stands at the end. -/
private theorem finish_awaiting {slot : Slot} (follows : Follows tokens [] progress)
    (awaits : progress.stage = .awaiting slot) : (progress.finish []).IsPlaced tokens := by
  have ends : progress.position = tokens.length :=
    Nat.le_antisymm follows.inside (List.drop_eq_nil_iff.mp follows.rest)
  have beyond : tokens[progress.position]? = none :=
    List.getElem?_eq_none (Nat.le_of_eq ends.symm)
  obtain ⟨ordered, found⟩ := follows.gaps_miss slot beyond
  simp only [finish_eq, awaits]
  refine ⟨?_, ?_, List.pairwise_reverse.mpr ordered, ?_, ?_⟩
  · rw [eq_comm, List.drop_eq_nil_iff]
    exact Nat.le_succ_of_le (Nat.le_of_eq ends.symm)
  · exact Nat.succ_le_succ follows.inside
  · intro gap member
    exact found gap (List.mem_reverse.mp member)
  · intro _
    exact ⟨_, List.mem_reverse.mpr List.mem_cons_self, ends⟩

theorem read (follows : Follows tokens rest progress) :
    (progress.read rest).IsPlaced tokens := by
  induction rest generalizing progress with
  | nil =>
      cases stage : progress.stage with
      | whole whole => exact follows.finish_whole stage
      | awaiting slot => exact follows.finish_awaiting stage
  | cons token rest ih =>
      rw [Progress.read_cons]
      split
      next next taken => exact ih (follows.take? taken)
      next ended =>
        obtain ⟨whole, stands⟩ := exists_whole_of_take?_eq_none ended
        exact follows.finish_whole stands

end Progress.Follows

theorem Progress.Follows.initial {opening rest : List Token} :
    Progress.Follows (opening ++ rest) rest (.initial opening.length) where
  rest := List.drop_left
  inside := by simp [Progress.initial]
  ordered := .nil
  found := by simp [Progress.initial]

theorem ofTokens_isPlaced (tokens : List Token) : (ofTokens tokens).IsPlaced tokens := by
  obtain ⟨opening, rest, rfl, _, read⟩ := exists_opens tokens
  exact read ▸ Progress.Follows.initial.read

namespace IsPlaced

variable {tokens : List Token} {reading : Reading}

theorem position_le (placed : reading.IsPlaced tokens) {gap : Gap} (member : gap ∈ reading.gaps) :
    gap.position ≤ tokens.length := by
  have behind := (placed.found gap member).1
  have bound := placed.consumed_le
  omega

theorem consumed_eq_succ_iff (placed : reading.IsPlaced tokens) :
    reading.consumed = tokens.length + 1 ↔ ∃ gap ∈ reading.gaps, gap.position = tokens.length := by
  constructor
  · exact placed.overrun
  · rintro ⟨gap, member, ends⟩
    have behind := (placed.found gap member).1
    have bound := placed.consumed_le
    omega

end IsPlaced

end DiceLanguage.Reading
