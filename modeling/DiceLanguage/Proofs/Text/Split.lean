import DiceLanguage.Text.Pieces.Append

/-!
# Pieces as words

A text can be cut another way: a blank is put on both sides of each character
that stands alone, and the text is split at its blanks. This gives the
characters of the same pieces in the same order.
-/

set_option autoImplicit false

namespace DiceLanguage.Text

def words (separates : Char → Bool) (text : List Char) : List (List Char) :=
  (text.splitOnP separates).filter (!·.isEmpty)

/-- A character with a blank before and after it, if it stands alone. -/
def spacing (blank : Char) (standsAlone : Char → Bool) (character : Char) : List Char :=
  if standsAlone character then [blank, character, blank] else [character]

def spaced (blank : Char) (standsAlone : Char → Bool) (text : List Char) : List Char :=
  text.flatMap (spacing blank standsAlone)

section

variable {separates : Char → Bool}

private theorem words_append_separator (before after : List Char) {separator : Char}
    (isSeparator : separates separator = true) :
    words separates (before ++ separator :: after) =
      words separates before ++ words separates after := by
  simp only [words, List.splitOnP_append_cons before after isSeparator, List.filter_append]

private theorem words_nil : words separates [] = [] := by
  simp [words]

private theorem words_solid {run : List Char} (nonempty : run ≠ [])
    (solid : ∀ character ∈ run, separates character = false) : words separates run = [run] := by
  simp [words, List.splitOnP_eq_singleton solid, nonempty]

end

namespace Cutting

variable {role : Char → Role} {separates standsAlone : Char → Bool} {blank : Char}

def finished (cutting : Cutting) : List (List Char) :=
  cutting.pieces.reverse.map Piece.characters

private theorem finished_close (cutting : Cutting)
    (solid : ∀ character ∈ cutting.run, separates character = false) :
    cutting.close.finished = cutting.finished ++ words separates cutting.run.reverse := by
  obtain ⟨start, run, pieces⟩ := cutting
  cases run with
  | nil => simp [close, finished, words_nil]
  | cons last others =>
      have solid : ∀ character ∈ (last :: others).reverse, separates character = false := by
        intro character member
        exact solid character (List.mem_reverse.mp member)
      rw [words_solid (by simp) solid]
      simp [close, finished]

section

variable (separating : ∀ character, role character = .separating ↔ separates character = true)

include separating

/-- No character that separates comes into the open run. -/
private theorem solid_step {cutting : Cutting}
    (solid : ∀ character ∈ cutting.run, separates character = false) (character : Char) :
    ∀ other ∈ (cutting.step role character).run, separates other = false := by
  intro other member
  cases part : role character with
  | separating => simp [step, part, skip, run_close] at member
  | alone => simp [step, part, single, run_close] at member
  | joining =>
      simp only [step, part, join, List.mem_cons] at member
      rcases member with rfl | member
      · rw [← Bool.not_eq_true, ← separating, part]
        simp
      · exact solid other member

variable (isBlank : separates blank = true)
  (alone : ∀ character, role character = .alone ↔ standsAlone character = true)

include isBlank alone

/-- What is finished and what is still to be split make up the same words
before and after a step. -/
private theorem words_step {cutting : Cutting}
    (solid : ∀ character ∈ cutting.run, separates character = false) (character : Char)
    (later : List Char) :
    (cutting.step role character).finished ++
        words separates ((cutting.step role character).run.reverse ++ later) =
      cutting.finished ++
        words separates (cutting.run.reverse ++ (spacing blank standsAlone character ++ later)) := by
  have separates? := separating character
  have alone? := alone character
  cases part : role character with
  | separating =>
      simp only [part, true_iff, reduceCtorEq, false_iff, Bool.not_eq_true] at separates? alone?
      have split := words_append_separator cutting.run.reverse later separates?
      simp only [spacing, alone?, if_neg Bool.false_ne_true, List.singleton_append, split,
        ← List.append_assoc, ← cutting.finished_close solid]
      simp [step, part, skip, finished, run_close]
  | alone =>
      simp only [part, true_iff, reduceCtorEq, false_iff, Bool.not_eq_true] at separates? alone?
      have mark : words separates [character] = [[character]] :=
        words_solid (by simp) (by simpa using separates?)
      have before := words_append_separator cutting.run.reverse (character :: blank :: later) isBlank
      have after := words_append_separator [character] later isBlank
      rw [List.singleton_append] at after
      simp only [spacing, alone?, if_pos, List.cons_append, List.nil_append, before, after, mark,
        ← List.append_assoc, ← cutting.finished_close solid]
      simp [step, part, single, finished, run_close]
  | joining =>
      simp only [part, reduceCtorEq, false_iff, Bool.not_eq_true] at alone?
      simp [step, part, spacing, alone?, join, finished]

private theorem finished_foldl_step {cutting : Cutting}
    (solid : ∀ character ∈ cutting.run, separates character = false) (text : List Char) :
    (text.foldl (step role) cutting).close.finished =
      cutting.finished ++
        words separates (cutting.run.reverse ++ spaced blank standsAlone text) := by
  induction text generalizing cutting with
  | nil => simp [spaced, cutting.finished_close solid]
  | cons character rest ih =>
      rw [List.foldl_cons, ih (solid_step separating solid character),
        words_step separating isBlank alone solid, spaced, spaced, List.flatMap_cons]

end

end Cutting

/-- Cutting a text gives the words of the spaced text. -/
theorem characters_pieces {role : Char → Role} {separates standsAlone : Char → Bool}
    {blank : Char}
    (separating : ∀ character, role character = .separating ↔ separates character = true)
    (isBlank : separates blank = true)
    (alone : ∀ character, role character = .alone ↔ standsAlone character = true)
    (text : List Char) :
    (pieces role text).map Piece.characters =
      words separates (spaced blank standsAlone text) := by
  have solid : ∀ character ∈ Cutting.initial.run, separates character = false := by
    intro character member
    cases member
  exact Cutting.finished_foldl_step separating isBlank alone solid text

end DiceLanguage.Text
