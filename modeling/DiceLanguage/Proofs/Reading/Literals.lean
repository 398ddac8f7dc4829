import DiceLanguage.Proofs.Diagnosis.Order
import DiceLanguage.Proofs.Formula.Literals
import DiceLanguage.Proofs.Reading.Moves
import Mathlib.Data.List.Basic

/-!
# Literals of a reading

Whatever the tokens, each number that is taken becomes one literal of the
formula, in the order of the tokens, and so does the zero of each gap. Nothing
else becomes a literal. Main statement: `Reader.literals_read`.
-/

set_option autoImplicit false

namespace DiceLanguage

open Text

/-- The number that a token writes, whether or not a word is that large. -/
def Token.numeral? (token : Token) : Option Nat :=
  if token.kind = .number then some (Numeral.value token.text.toList) else none

private theorem Token.numeral?_eq_some_iff {token : Token} {number : Nat} :
    token.numeral? = some number ↔
      token.kind = .number ∧ Numeral.value token.text.toList = number := by
  simp [numeral?]

private theorem Token.Denotes.numeral? {token : Token} {value : Int64}
    (denotes : token.Denotes value) :
    token.numeral? = some (magnitude value) := by
  rw [numeral?_eq_some_iff, magnitude, denotes.2, Int.natAbs_natCast]
  exact ⟨denotes.1, rfl⟩

private theorem Token.numeral?_eq_none {token : Token} (other : token.kind ≠ .number) :
    token.numeral? = none := if_neg other

namespace Reading

variable {tokens rest : List Token} {token : Token} {stage next : Stage}

/-- A move adds the number of its token, if it has one, after all others. -/
private theorem Stage.Moves.magnitudes (moves : Moves token stage next) :
    next.magnitudes = stage.magnitudes ++ token.numeral?.toList := by
  by_cases number : token.kind = .number
  · obtain ⟨slot, value, rfl, rfl, denotes⟩ := moves.filled_of_number number
    simp [Stage.magnitudes, Slot.magnitudes_fill, denotes.numeral?]
  · rw [Token.numeral?_eq_none number, Option.toList_none, List.append_nil]
    cases moves with
    | filled denotes => exact absurd denotes.1 number
    | signed | joined => simp [Stage.magnitudes, Slot.magnitudes]
    | scaled => simp [Stage.magnitudes, Slot.magnitudes, Whole.magnitudes_formula]
    | sides | critical => simp [Stage.magnitudes, Slot.magnitudes, Term.formula]
    | rounded => simp [Stage.magnitudes, Pending.magnitudes]

/-! ## Numbers by their places -/

/-- The number taken at a place of some tokens: zero at a gap. -/
def numberAt? (tokens : List Token) (gaps : List Gap) (position : Nat) : Option Nat :=
  if ∃ gap ∈ gaps, gap.position = position then some 0
  else tokens[position]?.bind Token.numeral?

private theorem numberAt?_eq_some_iff {gaps : List Gap} {position number : Nat} :
    numberAt? tokens gaps position = some number ↔
      (∃ gap ∈ gaps, gap.position = position) ∧ number = 0 ∨
        (¬∃ gap ∈ gaps, gap.position = position) ∧ ∃ token, tokens[position]? = some token ∧
          token.kind = .number ∧ Numeral.value token.text.toList = number := by
  unfold numberAt?
  split
  next missing => simp [missing, @eq_comm _ 0]
  next free => simp [free, Option.bind_eq_some_iff, Token.numeral?_eq_some_iff]

private theorem isSome_numberAt?_iff {gaps : List Gap} {position : Nat} :
    (numberAt? tokens gaps position).isSome = true ↔
      (∃ token, tokens[position]? = some token ∧ token.kind = .number) ∨
        ∃ gap ∈ gaps, gap.position = position := by
  simp only [Option.isSome_iff_exists, numberAt?_eq_some_iff]
  constructor
  · rintro ⟨number, ⟨missing, _⟩ | ⟨_, token, stands, kind, _⟩⟩
    · exact .inr missing
    · exact .inl ⟨token, stands, kind⟩
  · rintro (⟨token, stands, kind⟩ | missing)
    · by_cases missing : ∃ gap ∈ gaps, gap.position = position
      · exact ⟨0, .inl ⟨missing, rfl⟩⟩
      · exact ⟨_, .inr ⟨missing, token, stands, kind, rfl⟩⟩
    · exact ⟨0, .inl ⟨missing, rfl⟩⟩

def numbers (tokens : List Token) (gaps : List Gap) (position : Nat) : List Nat :=
  (List.range position).filterMap (numberAt? tokens gaps)

variable {gaps : List Gap} {position : Nat}

private theorem numbers_succ :
    numbers tokens gaps (position + 1) =
      numbers tokens gaps position ++ (numberAt? tokens gaps position).toList := by
  rw [numbers, List.range_succ, List.filterMap_append]
  cases taken : numberAt? tokens gaps position <;> simp [numbers, taken]

private theorem numbers_reverse :
    numbers tokens gaps.reverse position = numbers tokens gaps position := by
  unfold numbers numberAt?
  simp only [List.mem_reverse]

private theorem numbers_cons (found : Option Token) :
    numbers tokens (⟨position, found⟩ :: gaps) position = numbers tokens gaps position := by
  refine List.filterMap_congr fun before inside => ?_
  have other : position ≠ before := Nat.ne_of_gt (List.mem_range.mp inside)
  simp [numberAt?, other]

namespace Progress

variable {progress after : Progress}

def Keeps (tokens : List Token) (progress : Progress) : Prop :=
  progress.stage.magnitudes = numbers tokens progress.gaps progress.position

private theorem Keeps.advance (keeps : progress.Keeps tokens)
    (follows : Follows tokens (token :: rest) progress)
    (moves : Stage.Moves token progress.stage next) : (progress.advance next).Keeps tokens := by
  have free : ¬∃ gap ∈ progress.gaps, gap.position = progress.position := by
    rintro ⟨gap, member, here⟩
    exact Nat.ne_of_lt (follows.found gap member).1 here
  have here : numberAt? tokens progress.gaps progress.position = token.numeral? := by
    rw [numberAt?, if_neg free, follows.getElem?, Option.bind_some]
  unfold Keeps at keeps
  rw [Keeps, Progress.advance, numbers_succ, here, ← keeps, moves.magnitudes]

private theorem Keeps.miss {slot : Slot} (keeps : progress.Keeps tokens)
    (awaits : progress.stage = .awaiting slot) (found : Option Token) :
    (progress.miss slot found).Keeps tokens := by
  have here : numberAt? tokens (⟨progress.position, found⟩ :: progress.gaps) progress.position =
      some 0 := by
    simp [numberAt?]
  simp only [Keeps, awaits, Stage.magnitudes] at keeps
  simp only [Keeps, Progress.miss, numbers_succ, here, numbers_cons, ← keeps, Stage.magnitudes,
    Slot.magnitudes_fill]
  rfl

private theorem Keeps.take? (keeps : progress.Keeps tokens)
    (follows : Follows tokens (token :: rest) progress)
    (taken : progress.take? token = some after) : after.Keeps tokens := by
  rcases take?_cases taken with ⟨stage, accepted, rfl⟩ | ⟨slot, awaits, rfl⟩
  · exact keeps.advance follows (Stage.moves_of_accept? accepted)
  · exact keeps.miss awaits (some token)

private theorem Keeps.finish (keeps : progress.Keeps tokens) (leftover : List Token) :
    (progress.finish leftover).formula.magnitudes =
      numbers tokens (progress.finish leftover).gaps (progress.finish leftover).consumed := by
  rw [Progress.finish_eq]
  split
  next whole stands =>
    rw [numbers_reverse, ← keeps, stands, Stage.magnitudes]
  next slot awaits =>
    rw [numbers_reverse, ← keeps.miss awaits none, Progress.miss, Stage.magnitudes]

theorem Keeps.read (keeps : progress.Keeps tokens) (follows : Follows tokens rest progress) :
    (progress.read rest).formula.magnitudes =
      numbers tokens (progress.read rest).gaps (progress.read rest).consumed := by
  induction rest generalizing progress with
  | nil => exact keeps.finish []
  | cons token rest ih =>
      rw [Progress.read_cons]
      split
      next after taken => exact ih (keeps.take? follows taken) (follows.take? taken)
      next => exact keeps.finish (token :: rest)

end Progress

private theorem Opens.keeps {opening : List Token} (opens : Opens opening rest) :
    (Progress.initial opening.length).Keeps (opening ++ rest) := by
  cases opens with
  | plain => rfl
  | @secret marker _ marked =>
      have nothing : marker.numeral? = none := Token.numeral?_eq_none (by simp [marked])
      have none : numbers (marker :: rest) [] 1 = [] := by
        simp [numbers, numberAt?, nothing]
      exact none.symm

theorem magnitudes_ofTokens (tokens : List Token) :
    (ofTokens tokens).formula.magnitudes =
      numbers tokens (ofTokens tokens).gaps (ofTokens tokens).consumed := by
  obtain ⟨opening, rest, rfl, opens, read⟩ := exists_opens tokens
  exact read ▸ opens.keeps.read Progress.Follows.initial

def slots (tokens : List Token) (reading : Reading) : List Nat :=
  (List.range reading.consumed).filter fun position =>
    (numberAt? tokens reading.gaps position).isSome

private theorem pairwise_slots (tokens : List Token) (reading : Reading) :
    (slots tokens reading).Pairwise (· < ·) :=
  List.Pairwise.filter _ List.pairwise_lt_range

private theorem IsPlaced.mem_slots_iff {reading : Reading} (placed : reading.IsPlaced tokens) :
    position ∈ slots tokens reading ↔
      (position < reading.consumed ∧
        ∃ token, tokens[position]? = some token ∧ token.kind = .number) ∨
      ∃ gap ∈ reading.gaps, gap.position = position := by
  rw [slots, List.mem_filter, List.mem_range, isSome_numberAt?_iff]
  constructor
  · rintro ⟨inside, number | missing⟩
    · exact .inl ⟨inside, number⟩
    · exact .inr missing
  · rintro (⟨inside, number⟩ | ⟨gap, member, rfl⟩)
    · exact ⟨inside, .inl number⟩
    · exact ⟨(placed.found gap member).1, .inr ⟨gap, member, rfl⟩⟩

private theorem map_numberAt?_slots (tokens : List Token) :
    (slots tokens (ofTokens tokens)).map (numberAt? tokens (ofTokens tokens).gaps) =
      (ofTokens tokens).formula.magnitudes.map some := by
  rw [magnitudes_ofTokens, numbers, List.map_filterMap_some_eq_filter_map_isSome, List.filter_map]
  rfl

end Reading

/-! ## Literals and their places -/

def Outcome.LacksNumber (outcome : Outcome) (position : Nat) : Prop :=
  ∃ diagnostic ∈ outcome.diagnostics,
    diagnostic.cause = .missingNumber ∧ diagnostic.position = position

variable (reader : Reader) (input : String)

private theorem Reader.lacksNumber_iff (position : Nat) :
    (reader.read input).LacksNumber position ↔
      ∃ gap ∈ (reader.reading input).gaps, gap.position = position := by
  constructor
  · rintro ⟨diagnostic, member, cause, rfl⟩
    simp only [read_eq, Reading.diagnostics, List.mem_append] at member
    rcases member with (missing | leftover) | ofCheck
    · obtain ⟨gap, among, rfl⟩ := List.mem_map.mp missing
      exact ⟨gap, among, (gap.position_diagnostic _).symm⟩
    · obtain ⟨count, other⟩ := Reading.cause_of_mem_leftoverDiagnostics leftover
      simp [other] at cause
    · rcases reader.interpretation.mem_checkDiagnostics_cases _ ofCheck with
        rfl | ⟨fault, _, rfl⟩
      · cases cause
      · cases cause
  · rintro ⟨gap, member, rfl⟩
    refine ⟨gap.diagnostic (reader.tokens input), ?_, gap.cause_diagnostic _,
      gap.position_diagnostic _⟩
    rw [read_eq, Reading.diagnostics]
    simp [Reading.gapDiagnostics, List.mem_map_of_mem member]

/-- The literals of the formula that is read stand for the numbers that were
taken and for those that were missing, each once and in their order: in place of
a missing number stands a zero, and a number that was taken keeps its size. -/
theorem Reader.literals_read :
    let outcome := reader.read input
    let tokens := reader.tokens input
    ∃ slots : List Nat, slots.Pairwise (· < ·) ∧
      (∀ position, position ∈ slots ↔
        (position < (reader.reading input).consumed ∧
          ∃ token, tokens[position]? = some token ∧ token.kind = .number) ∨
        outcome.LacksNumber position) ∧
      outcome.roll.formula.literals.length = slots.length ∧
      ∀ (index slot : Nat) (literal : Int64), slots[index]? = some slot →
        outcome.roll.formula.literals[index]? = some literal →
        (outcome.LacksNumber slot ∧ magnitude literal = 0 ∨
          ¬outcome.LacksNumber slot ∧ ∃ token, tokens[slot]? = some token ∧
            token.kind = .number ∧ magnitude literal = Numeral.value token.text.toList) := by
  intro outcome tokens
  let reading := reader.reading input
  have lacks (position : Nat) := reader.lacksNumber_iff input position
  have body : outcome.roll.formula = reading.formula := by simp only [outcome, read_eq, reading]
  have aligned : (Reading.slots tokens reading).map (Reading.numberAt? tokens reading.gaps) =
      reading.formula.magnitudes.map some := Reading.map_numberAt?_slots tokens
  rw [body]
  refine ⟨Reading.slots tokens reading, Reading.pairwise_slots _ _, ?_, ?_, ?_⟩
  · intro position
    rw [lacks]
    exact (reader.reading_isPlaced input).mem_slots_iff
  · simpa [Formula.magnitudes] using (congrArg List.length aligned).symm
  · intro index slot literal isSlot isLiteral
    have same : Reading.numberAt? tokens reading.gaps slot = some (magnitude literal) := by
      have here := congrArg (fun numbers => numbers[index]?) aligned
      simpa [Formula.magnitudes, isSlot, isLiteral] using here
    rw [lacks]
    rcases Reading.numberAt?_eq_some_iff.mp same with missing | ⟨free, token, stands, kind, number⟩
    · exact .inl missing
    · exact .inr ⟨free, token, stands, kind, number.symm⟩

end DiceLanguage
