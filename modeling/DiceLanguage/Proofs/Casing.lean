import DiceLanguage.Proofs.Resolution

/-!
# Case of letters

A reader that folds case reads an input as one that does not reads the input
with the letters of its formula in upper case. Folding turns no character into
a comparison character or back, so the input is divided at the same place.
-/

set_option autoImplicit false

namespace DiceLanguage

namespace Wording

/-! ## Codes of letters -/

private theorem toNat_toUpper (character : Char) :
    character.toUpper.toNat =
      if 97 ≤ character.toNat ∧ character.toNat ≤ 122 then character.toNat - 32
      else character.toNat := by
  have lower : 'a'.val ≤ character.val ∧ character.val ≤ 'z'.val ↔
      97 ≤ character.toNat ∧ character.toNat ≤ 122 := by
    rw [UInt32.le_iff_toNat_le, UInt32.le_iff_toNat_le]
    rfl
  unfold Char.toUpper
  simp only [lower]
  split
  next =>
    -- What is taken away is added as its complement in 32 bits.
    change (character.val + ('A'.val - 'a'.val)).toNat = character.toNat - 32
    rw [UInt32.toNat_add]
    change (character.toNat + 4294967264) % 4294967296 = _
    omega
  next => rfl

private theorem toNat_toLower (character : Char) :
    character.toLower.toNat =
      if 65 ≤ character.toNat ∧ character.toNat ≤ 90 then character.toNat + 32
      else character.toNat := by
  have upper : 'A'.val ≤ character.val ∧ character.val ≤ 'Z'.val ↔
      65 ≤ character.toNat ∧ character.toNat ≤ 90 := by
    rw [UInt32.le_iff_toNat_le, UInt32.le_iff_toNat_le]
    rfl
  unfold Char.toLower
  simp only [ge_iff_le, upper]
  split
  next =>
    change (character.val + ('a'.val - 'A'.val)).toNat = character.toNat + 32
    rw [UInt32.toNat_add]
    change (character.toNat + 32) % 4294967296 = _
    omega
  next => rfl

private theorem toUpper_toUpper (character : Char) :
    character.toUpper.toUpper = character.toUpper := by
  rw [← Char.toNat_inj, toNat_toUpper, toNat_toUpper]
  grind

private theorem toUpper_toLower (character : Char) :
    character.toLower.toUpper = character.toUpper := by
  rw [← Char.toNat_inj, toNat_toUpper, toNat_toUpper, toNat_toLower]
  grind

/-- Characters before all letters are not reached from others. -/
private theorem toUpper_eq_iff {character mark : Char} (before : mark.toNat < 65) :
    character.toUpper = mark ↔ character = mark := by
  rw [← Char.toNat_inj, ← Char.toNat_inj, toNat_toUpper]
  grind

private theorem isComparison_toUpper (character : Char) :
    isComparison character.toUpper = isComparison character := by
  simp only [isComparison, toUpper_eq_iff (show '<'.toNat < 65 by decide),
    toUpper_eq_iff (show '>'.toNat < 65 by decide), toUpper_eq_iff (show '='.toNat < 65 by decide)]

/-! ## Wordings in another case -/

private theorem map_toUpper_of_map_toLower {first second : String}
    (same : first.map Char.toLower = second.map Char.toLower) :
    first.map Char.toUpper = second.map Char.toUpper := by
  have raised (text : String) :
      text.toList.map Char.toUpper = (text.map Char.toLower).toList.map Char.toUpper := by
    simp only [String.toList_map, List.map_map, Function.comp_def, toUpper_toLower]
  apply String.toList_injective
  rw [String.toList_map, String.toList_map, raised first, raised second, same]

variable {input : String} {wording : Wording}

private theorem Divides.plain_of_map_toUpper (divides : wording.Divides input) {formula : String}
    (same : formula.map Char.toUpper = wording.formula.map Char.toUpper) :
    ∀ character ∈ formula.toList, isComparison character = false := by
  intro character member
  have raised : character.toUpper ∈ wording.formula.toList.map Char.toUpper := by
    rw [← String.toList_map, ← same, String.toList_map]
    exact List.mem_map_of_mem member
  obtain ⟨other, among, letter⟩ := List.mem_map.mp raised
  rw [← isComparison_toUpper, ← letter, isComparison_toUpper]
  exact divides.formula other among

end Wording

namespace Reader

private theorem read_eq_of_wording_eq (reader other : Reader) {input otherInput : String}
    (interpretation : reader.interpretation = other.interpretation)
    (wording : reader.wording input = other.wording otherInput) :
    reader.read input = other.read otherInput := by
  rw [read_eq, read_eq, reading, reading, tokens, tokens, wording, interpretation]

/-- Folding the case is reading the formula in upper case. So the case in
which the letters of the formula were given has no effect. -/
theorem read_foldsCase (mode : Mode) (interpretation : Interpretation) {input : String}
    {wording : Wording} (divides : wording.Divides input) :
    let folding : Reader := ⟨⟨mode, true⟩, interpretation⟩
    let sensitive : Reader := ⟨⟨mode, false⟩, interpretation⟩
    folding.read input =
        sensitive.read (wording.formula.map Char.toUpper ++ wording.relation ++ wording.target) ∧
      ∀ formula : String, formula.map Char.toLower = wording.formula.map Char.toLower →
        folding.read (formula ++ wording.relation ++ wording.target) = folding.read input := by
  intro folding sensitive
  have folded : folding.wording input = wording.folded := by
    rw [Reader.wording, divides.ofInput_eq]
    rfl
  constructor
  · have twice : (wording.formula.map Char.toUpper).map Char.toUpper =
        wording.formula.map Char.toUpper := by
      simp only [String.map_map, Function.comp_def, Wording.toUpper_toUpper]
    have divided := divides.withFormula (divides.plain_of_map_toUpper twice)
    refine read_eq_of_wording_eq folding sensitive rfl ?_
    rw [folded, Reader.wording, divided.ofInput_eq]
    rfl
  · intro formula same
    have raised := Wording.map_toUpper_of_map_toLower same
    have divided := divides.withFormula (divides.plain_of_map_toUpper raised)
    refine read_eq_of_wording_eq folding folding rfl ?_
    rw [folded, Reader.wording, divided.ofInput_eq]
    change Wording.mk (formula.map Char.toUpper) wording.relation wording.target = wording.folded
    rw [raised, Wording.folded]

theorem read_foldsCase_mixed :
    let wording : Wording := ⟨"s2d×/3u", "=>", "1D"⟩
    let folding : Reader := ⟨⟨.strict, true⟩, .standard⟩
    let sensitive : Reader := ⟨⟨.strict, false⟩, .standard⟩
    wording.Divides "s2d×/3u=>1D" ∧
      "S2d×/3U".map Char.toLower = wording.formula.map Char.toLower ∧
      folding.read "s2d×/3u=>1D" =
        sensitive.read (wording.formula.map Char.toUpper ++ wording.relation ++ wording.target) ∧
      folding.read ("S2d×/3U" ++ wording.relation ++ wording.target) =
        folding.read "s2d×/3u=>1D" ∧
      (folding.read "s2d×/3u=>1D").diagnostics =
        [⟨.missingNumber, 3, ⟨3, 5⟩, "×"⟩, ⟨.badTarget (.unexpected 1 "D"), 7, ⟨10, 12⟩, "1D"⟩] := by
  intro wording folding sensitive
  have divides : wording.Divides "s2d×/3u=>1D" := by
    have divided : Wording.ofInput "s2d×/3u=>1D" = wording := by decide +kernel
    exact divided ▸ Wording.divides_ofInput _
  have sameLetters : "S2d×/3U".map Char.toLower = wording.formula.map Char.toLower := by
    apply String.toList_injective
    rw [String.toList_map, String.toList_map]
    decide +kernel
  have shown : (folding.read "s2d×/3u=>1D").diagnostics =
      [⟨.missingNumber, 3, ⟨3, 5⟩, "×"⟩,
        ⟨.badTarget (.unexpected 1 "D"), 7, ⟨10, 12⟩, "1D"⟩] := by
    decide +kernel
  obtain ⟨upper, anyCase⟩ := read_foldsCase .strict .standard divides
  exact ⟨divides, sameLetters, upper, anyCase "S2d×/3U" sameLetters, shown⟩

end Reader

end DiceLanguage
