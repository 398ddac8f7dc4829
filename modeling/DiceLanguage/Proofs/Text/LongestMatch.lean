import DiceLanguage.Text.Span
import Mathlib.Computability.Language
import Mathlib.Data.Nat.Find

/-!
# Longest match

A lexer has rules, and each rule covers some texts. The longest beginning of a
text that some rule covers is taken and makes an item, or is passed over; a
character with which no rule can begin makes an item of its own. Some items are
always found so, and a scan that keeps to each of these steps finds no others:
`LexicalRules.Scans.lexes_iff`.
-/

set_option autoImplicit false

namespace DiceLanguage.Text

open Computability

/-! ## Classes of characters -/

def oneOf (isMember : Char → Bool) : Language Char :=
  {text | ∃ character, isMember character = true ∧ text = [character]}

section

variable {isMember : Char → Bool} {text : List Char}

theorem mem_oneOf : text ∈ oneOf isMember ↔ ∃ character, isMember character = true ∧
    text = [character] := Iff.rfl

theorem mem_kstar_oneOf :
    text ∈ (oneOf isMember)∗ ↔ ∀ character ∈ text, isMember character = true := by
  constructor
  · rintro ⟨parts, rfl, singles⟩ character member
    obtain ⟨part, among, inside⟩ := List.mem_flatten.mp member
    obtain ⟨other, isMember, rfl⟩ := singles part among
    rw [List.mem_singleton.mp inside]
    exact isMember
  · intro members
    have parts : text = (text.map fun character => [character]).flatten := by
      rw [← List.flatMap_def, List.flatMap_singleton']
    rw [parts]
    apply Language.join_mem_kstar
    intro part among
    obtain ⟨character, member, rfl⟩ := List.mem_map.mp among
    exact ⟨character, members character member, rfl⟩

theorem mem_plus_oneOf :
    text ∈ oneOf isMember * (oneOf isMember)∗ ↔
      text ≠ [] ∧ ∀ character ∈ text, isMember character = true := by
  rw [Language.mem_mul]
  constructor
  · rintro ⟨_, ⟨first, isFirst, rfl⟩, rest, others, rfl⟩
    rw [mem_kstar_oneOf] at others
    exact ⟨by simp, by simpa using ⟨isFirst, others⟩⟩
  · rintro ⟨nonempty, members⟩
    cases text with
    | nil => exact absurd rfl nonempty
    | cons first rest =>
        rw [List.forall_mem_cons] at members
        exact ⟨[first], ⟨first, members.1, rfl⟩, rest, mem_kstar_oneOf.mpr members.2, rfl⟩

end

/-! ## Rules -/

/-- The rules of a lexer. None covers the empty text. -/
structure LexicalRules (ρ ι : Type) where
  language : ρ → Language Char
  /-- What a rule makes of a text that begins at a given byte; `none` when it is
  passed over. -/
  item? : ρ → Nat → List Char → Option ι
  /-- What is made of a character with which no rule can begin. -/
  unknown : Nat → Char → ι
  ne_nil : ∀ rule text, text ∈ language rule → text ≠ []

namespace LexicalRules

variable {ρ ι : Type} (rules : LexicalRules ρ ι)

/-- A rule covers a slice, and no rule covers a longer beginning of the slice
and the rest after it. -/
structure Munches (rule : ρ) (slice rest : List Char) : Prop where
  covers : slice ∈ rules.language rule
  longest : ∀ other longer, longer <+: slice ++ rest → longer ∈ rules.language other →
    longer.length ≤ slice.length

def Unmatched (text : List Char) : Prop :=
  ∀ rule slice, slice <+: text → slice ∉ rules.language rule

inductive Lexes : Nat → List Char → List ι → Prop where
  | done {start} : Lexes start [] []
  | matched {start rule slice rest items} :
      rules.Munches rule slice rest → Lexes (start + byteLength slice) rest items →
      Lexes start (slice ++ rest) ((rules.item? rule start slice).toList ++ items)
  | unmatched {start character rest items} :
      rules.Unmatched (character :: rest) → Lexes (start + character.utf8Size) rest items →
      Lexes start (character :: rest) (rules.unknown start character :: items)

/-- A scan takes each longest match and each character without one. -/
structure Scans (scan : Nat → List Char → List ι) : Prop where
  done : ∀ start, scan start [] = []
  matched : ∀ {rule slice rest}, rules.Munches rule slice rest → ∀ start,
    scan start (slice ++ rest) =
      (rules.item? rule start slice).toList ++ scan (start + byteLength slice) rest
  unmatched : ∀ {character rest}, rules.Unmatched (character :: rest) → ∀ start,
    scan start (character :: rest) =
      rules.unknown start character :: scan (start + character.utf8Size) rest

variable {rules}

/-- No rule covers a longest match and the character after it. -/
theorem Munches.not_mem_append {rule other : ρ} {slice rest : List Char} {character : Char}
    (munches : rules.Munches rule slice rest) (next : rest.head? = some character) :
    slice ++ [character] ∉ rules.language other := by
  intro covered
  obtain ⟨after, rfl⟩ := List.head?_eq_some_iff.mp next
  have begins : slice ++ [character] <+: slice ++ character :: after := by simp
  have bound := munches.longest _ _ begins covered
  rw [List.length_append, List.length_singleton] at bound
  omega

private theorem exists_munches {text : List Char} (matched : ¬rules.Unmatched text) :
    ∃ rule slice rest, text = slice ++ rest ∧ rules.Munches rule slice rest := by
  classical
  let covers (length : Nat) : Prop := ∃ rule, text.take length ∈ rules.language rule
  have first : ∃ length ≤ text.length, covers length := by
    simp only [Unmatched, not_forall, not_not] at matched
    obtain ⟨rule, slice, begins, covered⟩ := matched
    exact ⟨slice.length, begins.length_le, rule, (List.prefix_iff_eq_take.mp begins) ▸ covered⟩
  obtain ⟨length, inside, covered⟩ := first
  obtain ⟨rule, covered⟩ := Nat.findGreatest_spec (P := covers) inside covered
  have bound := Nat.findGreatest_le (P := covers) text.length
  refine ⟨rule, _, _, (List.take_append_drop _ _).symm, covered, ?_⟩
  intro other longer begins longerCovered
  rw [List.take_append_drop] at begins
  have fits := begins.length_le
  rw [List.prefix_iff_eq_take] at begins
  rw [List.length_take, Nat.min_eq_left bound]
  exact Nat.le_findGreatest fits ⟨other, begins ▸ longerCovered⟩

variable (rules) in
private theorem exists_lexes (start : Nat) (text : List Char) :
    ∃ items, rules.Lexes start text items := by
  cases text with
  | nil => exact ⟨[], .done⟩
  | cons character others =>
      by_cases unmatched : rules.Unmatched (character :: others)
      · obtain ⟨items, lexes⟩ := exists_lexes (start + character.utf8Size) others
        exact ⟨_, .unmatched unmatched lexes⟩
      · obtain ⟨rule, slice, rest, split, munches⟩ := exists_munches unmatched
        have nonempty := List.length_pos_of_ne_nil (rules.ne_nil rule slice munches.covers)
        have shorter : rest.length < (character :: others).length := by
          rw [split, List.length_append]
          omega
        obtain ⟨items, lexes⟩ := exists_lexes (start + byteLength slice) rest
        rw [split]
        exact ⟨_, .matched munches lexes⟩
termination_by text.length
decreasing_by
  · simp
  · exact shorter

namespace Scans

variable {scan : Nat → List Char → List ι} {start : Nat} {text : List Char} {items : List ι}

private theorem eq_of_lexes (scans : rules.Scans scan) (lexes : rules.Lexes start text items) :
    items = scan start text := by
  induction lexes with
  | done => exact (scans.done _).symm
  | matched munches _ ih => rw [scans.matched munches, ih]
  | unmatched unmatched _ ih => rw [scans.unmatched unmatched, ih]

/-- The rules lead to the items of the scan and to no others. -/
theorem lexes_iff (scans : rules.Scans scan) :
    rules.Lexes start text items ↔ items = scan start text := by
  constructor
  · exact scans.eq_of_lexes
  · rintro rfl
    obtain ⟨items, lexes⟩ := rules.exists_lexes start text
    exact scans.eq_of_lexes lexes ▸ lexes

end Scans

end LexicalRules

end DiceLanguage.Text
