/-!
# Spans of text

Places in a text are counted in bytes of its UTF-8 form. Texts are lists of
characters here, so that a length is a sum over the characters. A span covers
a part of a text exactly when the part stands there: `Span.slice?_eq_some_iff`.
-/

set_option autoImplicit false

namespace DiceLanguage.Text

def byteLength : List Char → Nat
  | [] => 0
  | character :: rest => character.utf8Size + byteLength rest

@[simp] theorem byteLength_nil : byteLength [] = 0 := rfl

@[simp] theorem byteLength_cons (character : Char) (rest : List Char) :
    byteLength (character :: rest) = character.utf8Size + byteLength rest := rfl

@[simp] theorem byteLength_append (left right : List Char) :
    byteLength (left ++ right) = byteLength left + byteLength right := by
  induction left with
  | nil => simp
  | cons character rest ih => simp [ih, Nat.add_assoc]

@[simp] theorem byteLength_reverse (characters : List Char) :
    byteLength characters.reverse = byteLength characters := by
  induction characters with
  | nil => rfl
  | cons character rest ih => simp [ih, Nat.add_comm]

/-- The bytes from `start` up to, and not including, `stop`. -/
structure Span where
  start : Nat
  stop : Nat
  deriving DecidableEq

def Span.empty (place : Nat) : Span := ⟨place, place⟩

def Span.of (start : Nat) (characters : List Char) : Span :=
  ⟨start, start + byteLength characters⟩

/-- The parts of a text before and after a byte offset; `none` when the offset
lies within a character or beyond the end. -/
def splitBytes? (offset : Nat) : List Char → Option (List Char × List Char)
  | [] => if offset = 0 then some ([], []) else none
  | character :: rest =>
      if offset = 0 then
        some ([], character :: rest)
      else if character.utf8Size ≤ offset then
        (splitBytes? (offset - character.utf8Size) rest).map fun parts =>
          (character :: parts.1, parts.2)
      else
        none

private theorem splitBytes?_append (before after : List Char) :
    splitBytes? (byteLength before) (before ++ after) = some (before, after) := by
  induction before with
  | nil => cases after <;> simp [splitBytes?]
  | cons character rest ih =>
      have positive := character.utf8Size_pos
      rw [List.cons_append, splitBytes?, if_neg (by simp only [byteLength_cons]; omega),
        if_pos (by simp only [byteLength_cons]; omega)]
      simp [ih]

private theorem eq_append_of_splitBytes? {offset : Nat} {text before after : List Char}
    (split : splitBytes? offset text = some (before, after)) :
    text = before ++ after ∧ byteLength before = offset := by
  induction text generalizing offset before with
  | nil =>
      simp only [splitBytes?] at split
      split at split
      · cases split
        simp_all
      · cases split
  | cons character rest ih =>
      simp only [splitBytes?] at split
      split at split
      · cases split
        simp_all
      · split at split
        · obtain ⟨parts, found, equal⟩ := Option.map_eq_some_iff.mp split
          cases equal
          obtain ⟨rfl, length⟩ := ih found
          exact ⟨rfl, by simp only [byteLength_cons]; omega⟩
        · cases split

/-- A text splits at an offset exactly into two parts of which the first has
that many bytes. -/
theorem splitBytes?_eq_some_iff {offset : Nat} {text before after : List Char} :
    splitBytes? offset text = some (before, after) ↔
      text = before ++ after ∧ byteLength before = offset := by
  constructor
  · exact eq_append_of_splitBytes?
  · rintro ⟨rfl, rfl⟩
    exact splitBytes?_append before after

/-- The part of a text that a span covers; `none` when the span does not lie
within the text or cuts a character. -/
def Span.slice? (span : Span) (text : List Char) : Option (List Char) := do
  let (upToStop, _) ← splitBytes? span.stop text
  let (_, slice) ← splitBytes? span.start upToStop
  return slice

/-- A slice stands between what comes before and after it, and its span is
counted from the bytes before it. -/
theorem Span.slice?_eq_some_iff {span : Span} {text slice : List Char} :
    span.slice? text = some slice ↔
      ∃ before after, text = before ++ slice ++ after ∧
        span = Span.of (byteLength before) slice := by
  obtain ⟨start, stop⟩ := span
  simp only [Span.slice?, Option.bind_eq_bind, Option.bind_eq_some_iff, Option.pure_def,
    Option.some.injEq, Prod.exists, splitBytes?_eq_some_iff, Span.of, Span.mk.injEq]
  constructor
  · rintro ⟨_, after, ⟨rfl, rfl⟩, before, _, ⟨rfl, rfl⟩, rfl⟩
    exact ⟨before, after, rfl, rfl, by simp⟩
  · rintro ⟨before, after, rfl, rfl, rfl⟩
    exact ⟨before ++ slice, after, ⟨rfl, by simp⟩, before, slice, ⟨rfl, rfl⟩, rfl⟩

end DiceLanguage.Text
