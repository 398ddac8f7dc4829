import DiceLanguage.Console
import DiceLanguage.Proofs.Text.Bytes

/-!
# Lines of UTF-8

The text of some bytes is the one that is encoded by them. A carriage return at
the end of the bytes is a carriage return at the end of the text, since no
other character is encoded by bytes that end in one.
-/

set_option autoImplicit false

namespace DiceLanguage.Console

open Text

theorem decode?_eq_some_iff {line : List UInt8} {text : String} :
    decode? line = some text ↔ text.toList.flatMap String.utf8EncodeChar = line := by
  have encoded : text.toByteArray.data.toList = text.toList.flatMap String.utf8EncodeChar :=
    (bytes_toList text).symm
  have listed : text.toByteArray = ⟨line.toArray⟩ ↔ text.toByteArray.data.toList = line := by
    rw [ByteArray.ext_iff, ← Array.toList_inj]
  rw [← encoded, ← listed, decode?, String.fromUTF8?]
  constructor
  · intro decoded
    split at decoded
    next => exact congrArg String.toByteArray (Option.some.inj decoded).symm
    next => cases decoded
  · intro same
    have valid : ByteArray.IsValidUTF8 ⟨line.toArray⟩ := same ▸ text.isValidUTF8
    rw [dif_pos valid]
    exact congrArg some (String.toByteArray_inj.mp same.symm)

/-- No character but a carriage return ends in its byte. -/
private theorem eq_return_of_getLast?_utf8EncodeChar {character : Char}
    (last : (String.utf8EncodeChar character).getLast? = some 0x0d) : character = '\r' := by
  rcases toNat_eq_of_mem_utf8EncodeChar (List.mem_of_getLast? last) with code | ⟨above, _⟩
  · exact Char.toNat_inj.mp code.symm
  · exact absurd above (by decide)

theorem decode?_append_return (line : List UInt8) :
    decode? (line ++ [0x0d]) = (decode? line).map (·.push '\r') := by
  cases decoded : decode? line with
  | some text =>
      rw [Option.map_some, decode?_eq_some_iff, String.toList_push, List.flatMap_append,
        decode?_eq_some_iff.mp decoded]
      rfl
  | none =>
      rw [Option.map_none, Option.eq_none_iff_forall_ne_some]
      intro text whole
      rw [decode?_eq_some_iff] at whole
      rcases List.eq_nil_or_concat text.toList with nothing | ⟨earlier, final, split⟩
      · simp [nothing] at whole
      · rw [split, List.concat_eq_append, List.flatMap_append, List.flatMap_singleton] at whole
        have last : (String.utf8EncodeChar final).getLast? = some 0x0d := by
          have both := congrArg List.getLast? whole
          have nonempty := List.getLast?_eq_some_getLast (String.utf8EncodeChar_ne_nil (c := final))
          rwa [List.getLast?_append, List.getLast?_concat, nonempty, Option.some_or, ← nonempty]
            at both
        rw [eq_return_of_getLast?_utf8EncodeChar last] at whole
        have rest : decode? line = some (String.ofList earlier) := by
          rw [decode?_eq_some_iff, String.toList_ofList]
          exact List.append_cancel_right whole
        rw [decoded] at rest
        cases rest

end DiceLanguage.Console
