import DiceLanguage.Roll.Wording

/-!
# Divided inputs

An input is divided at its first run of comparison characters in one way only.
Folding the case of its formula moves no byte and leaves the rest alone.
-/

set_option autoImplicit false

namespace DiceLanguage.Wording

open Text

/-- The texts of an input on both sides of its first run of comparison
characters. -/
structure Divides (input : String) (wording : Wording) : Prop where
  whole : wording.formula ++ (wording.relation ++ wording.target) = input
  formula : ∀ character ∈ wording.formula.toList, isComparison character = false
  relation : ∀ character ∈ wording.relation.toList, isComparison character = true
  target : ∀ character, wording.target.toList.head? = some character →
    isComparison character = false
  bare : wording.relation = "" → wording.target = ""

/-- A text is divided where its characters cease to satisfy a predicate. -/
theorem takeWhile_dropWhile_append {predicate : Char → Bool} {before after : List Char}
    (inside : ∀ character ∈ before, predicate character = true)
    (outside : ∀ character, after.head? = some character → predicate character = false) :
    (before ++ after).takeWhile predicate = before ∧
      (before ++ after).dropWhile predicate = after := by
  rw [List.takeWhile_append_of_pos inside, List.dropWhile_append_of_pos inside]
  cases after with
  | nil => simp
  | cons first rest => simp [outside first rfl]

variable {input : String} {wording : Wording}

/-- What follows the formula begins with a comparison character, if at all. -/
private theorem Divides.isComparison_head (divides : wording.Divides input) :
    ∀ character, (wording.relation.toList ++ wording.target.toList).head? = some character →
      isComparison character = true := by
  intro character first
  cases characters : wording.relation.toList with
  | nil =>
      have noTarget := divides.bare (String.toList_eq_nil_iff.mp characters)
      rw [characters, noTarget] at first
      cases first
  | cons other rest =>
      rw [characters] at first
      cases first
      exact divides.relation character (characters ▸ List.mem_cons_self)

theorem Divides.ofInput_eq (divides : wording.Divides input) : ofInput input = wording := by
  have before : ∀ character ∈ wording.formula.toList, (!isComparison character) = true := by
    intro character member
    rw [divides.formula character member]
    rfl
  have after : ∀ character,
      (wording.relation.toList ++ wording.target.toList).head? = some character →
        (!isComparison character) = false := by
    intro character first
    rw [divides.isComparison_head character first]
    rfl
  have formulaDivided := takeWhile_dropWhile_append before after
  have relationDivided := takeWhile_dropWhile_append divides.relation divides.target
  rw [← divides.whole]
  simp only [ofInput, String.toList_append, formulaDivided.1, formulaDivided.2,
    relationDivided.1, relationDivided.2, String.ofList_toList]

theorem divides_ofInput (input : String) : (ofInput input).Divides input := by
  have head (predicate : Char → Bool) (text : List Char) (character : Char)
      (first : (text.dropWhile predicate).head? = some character) :
      predicate character = false := by
    have outside := List.head?_dropWhile_not predicate text
    rwa [first] at outside
  constructor
  case whole => rw [← String.append_assoc, ofInput_append]
  case formula =>
    intro character member
    rw [ofInput, String.toList_ofList] at member
    have inside := List.all_eq_true.mp (List.all_takeWhile (l := input.toList)) character member
    simpa using inside
  case relation =>
    intro character member
    rw [ofInput, String.toList_ofList] at member
    exact List.all_eq_true.mp List.all_takeWhile character member
  case target =>
    intro character first
    rw [ofInput, String.toList_ofList] at first
    exact head _ _ character first
  case bare =>
    intro bare
    -- Where no run begins, nothing is left after the formula.
    cases fromRelation : input.toList.dropWhile (!isComparison ·) with
    | nil => simp [ofInput, fromRelation]
    | cons character rest =>
        have comparison := head (!isComparison ·) input.toList character (by simp [fromRelation])
        simp only [Bool.not_eq_false'] at comparison
        simp [ofInput, fromRelation, comparison] at bare

/-- Another formula may stand in the place of the first one. -/
theorem Divides.withFormula (divides : wording.Divides input) {formula : String}
    (plain : ∀ character ∈ formula.toList, isComparison character = false) :
    Divides (formula ++ wording.relation ++ wording.target) { wording with formula := formula } where
  whole := (String.append_assoc ..).symm
  formula := plain
  relation := divides.relation
  target := divides.target
  bare := divides.bare

/-- A text without comparison characters is all formula. -/
theorem ofInput_of_formula {formula : String}
    (plain : ∀ character ∈ formula.toList, isComparison character = false) :
    ofInput formula = ⟨formula, "", ""⟩ := by
  apply Divides.ofInput_eq
  constructor
  case whole => rw [String.append_empty, String.append_empty]
  case formula => exact plain
  case bare => exact fun _ => rfl
  all_goals
    intro character member
    cases member

private theorem utf8Size_toUpper (character : Char) :
    character.toUpper.utf8Size = character.utf8Size := by
  unfold Char.toUpper
  split
  next lower =>
    obtain ⟨above, below⟩ := lower
    have ascii : character.utf8Size = 1 :=
      Char.utf8Size_eq_one_iff.mpr (UInt32.le_trans below (by decide))
    have distance : ('A'.val - 'a'.val).toNat = 4294967264 := by decide
    have limit : (127 : UInt32).toNat = 127 := by decide
    have first : 97 ≤ character.val.toNat := UInt32.le_iff_toNat_le.mp above
    have last : character.val.toNat ≤ 122 := UInt32.le_iff_toNat_le.mp below
    rw [ascii, Char.utf8Size_eq_one_iff, UInt32.le_iff_toNat_le, UInt32.toNat_add, distance, limit]
    omega
  next => rfl

theorem byteLength_map_toUpper (text : List Char) :
    byteLength (text.map Char.toUpper) = byteLength text := by
  induction text with
  | nil => rfl
  | cons character rest ih => simp [utf8Size_toUpper, ih]

section

variable (wording : Wording) (foldsCase : Bool)

theorem toList_formula_folding :
    (wording.folding foldsCase).formula.toList =
      if foldsCase then wording.formula.toList.map Char.toUpper else wording.formula.toList := by
  cases foldsCase with
  | false => rfl
  | true => exact String.toList_map

@[simp] theorem relation_folding : (wording.folding foldsCase).relation = wording.relation := by
  cases foldsCase <;> rfl

@[simp] theorem target_folding : (wording.folding foldsCase).target = wording.target := by
  cases foldsCase <;> rfl

@[simp] theorem trimmedTarget_folding :
    (wording.folding foldsCase).trimmedTarget = wording.trimmedTarget := by
  cases foldsCase <;> rfl

@[simp] theorem hasCheck_folding : (wording.folding foldsCase).hasCheck = wording.hasCheck := by
  cases foldsCase <;> rfl

@[simp] theorem relationSpan_folding :
    (wording.folding foldsCase).relationSpan = wording.relationSpan := by
  simp only [relationSpan, relation_folding, toList_formula_folding]
  split
  next => rw [byteLength_map_toUpper]
  next => rfl

@[simp] theorem targetSpan_folding :
    (wording.folding foldsCase).targetSpan = wording.targetSpan := by
  simp only [targetSpan, relationSpan_folding, target_folding]

end

end DiceLanguage.Wording
