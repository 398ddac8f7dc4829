import DiceLanguage.Text.Blank
import DiceLanguage.Text.Span
import Mathlib.Tactic.SplitIfs

/-!
# Bytes of a text

Lengths and places are counted in the bytes of UTF-8. A byte of a text tells
whether the character that it encodes separates: main statement
`mem_separatorBytes_iff`.
-/

set_option autoImplicit false

namespace DiceLanguage.Text

def bytes (characters : List Char) : List UInt8 := characters.flatMap String.utf8EncodeChar

theorem bytes_cons (character : Char) (rest : List Char) :
    bytes (character :: rest) = String.utf8EncodeChar character ++ bytes rest :=
  List.flatMap_cons

theorem bytes_append (left right : List Char) : bytes (left ++ right) = bytes left ++ bytes right :=
  List.flatMap_append

theorem length_bytes (characters : List Char) :
    (bytes characters).length = byteLength characters := by
  induction characters with
  | nil => rfl
  | cons character rest ih =>
      rw [bytes_cons, List.length_append, String.length_utf8EncodeChar, ih, byteLength_cons]

theorem bytes_toList (text : String) : bytes text.toList = text.toByteArray.data.toList := by
  rw [← String.utf8Encode_toList, List.utf8Encode, List.toList_data_toByteArray, bytes]

theorem byteLength_toList (text : String) : byteLength text.toList = text.utf8ByteSize := by
  rw [← length_bytes, bytes_toList, Array.length_toList, ByteArray.size_data,
    String.size_toByteArray]

theorem byteLength_eq_zero_iff {characters : List Char} :
    byteLength characters = 0 ↔ characters = [] := by
  cases characters with
  | nil => simp
  | cons character rest =>
      have positive := character.utf8Size_pos
      simp only [byteLength_cons, List.cons_ne_nil, iff_false]
      omega

theorem isValid_byteLength {text : String} {before after : List Char}
    (together : text.toList = before ++ after) :
    String.Pos.Raw.IsValid text ⟨byteLength before⟩ := by
  rw [String.Pos.Raw.isValid_iff_exists_append]
  refine ⟨.ofList before, .ofList after, ?_, ?_⟩
  · rw [← String.ofList_append, ← together, String.ofList_toList]
  · rw [String.rawEndPos, ← byteLength_toList, String.toList_ofList]

/-! ## Separators -/

/-- A byte of a character is its code, or neither is one of ASCII. -/
theorem toNat_eq_of_mem_utf8EncodeChar {character : Char} {byte : UInt8}
    (among : byte ∈ String.utf8EncodeChar character) :
    byte.toNat = character.toNat ∨ 128 ≤ byte.toNat ∧ 128 ≤ character.toNat := by
  unfold String.utf8EncodeChar at among
  dsimp only at among
  change byte.toNat = character.val.toNat ∨ 128 ≤ byte.toNat ∧ 128 ≤ character.val.toNat
  split_ifs at among with ascii
  · rw [List.mem_singleton.mp among, UInt8.toNat_ofNat']
    omega
  all_goals
    simp only [List.mem_cons, List.not_mem_nil, or_false] at among
    refine .inr ⟨?_, by omega⟩
    rcases among with rfl | rfl | rfl | rfl
    all_goals
      rw [UInt8.toNat_ofNat']
      omega

def separatorBytes : List UInt8 := [0x20, 0x09, 0x0a, 0x0b, 0x0c, 0x0d]

theorem mem_separatorBytes_iff {character : Char} {byte : UInt8}
    (among : byte ∈ String.utf8EncodeChar character) :
    byte ∈ separatorBytes ↔ isSeparator character = true := by
  have code := toNat_eq_of_mem_utf8EncodeChar among
  simp only [separatorBytes, List.mem_cons, List.not_mem_nil, or_false, ← UInt8.toNat_inj,
    isSeparator, Bool.or_eq_true, decide_eq_true_eq, ← Char.toNat_inj, UInt8.reduceToNat,
    Char.reduceToNat]
  omega

end DiceLanguage.Text
