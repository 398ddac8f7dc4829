import DiceLanguage.Proofs.Reading.Shift
import DiceLanguage.Proofs.Token

/-!
# Secret rolls

A secret marker before an input changes nothing in the roll that is read, and
moves all diagnostics on by one token and one byte, those of the check and of
the end of the formula with the others.
-/

set_option autoImplicit false

namespace DiceLanguage

open Text

namespace Token

def marker : Token := ⟨.secret, "S", ⟨0, 1⟩⟩

private theorem scan_secret (text : String) :
    scan ("S" ++ text) = marker :: (scan text).map (shift 1) := by
  have known : TokenKind.ofCharacter? 'S' = some .secret := rfl
  have characters : ("S" ++ text).toList = 'S' :: text.toList := String.toList_append
  rw [scan_eq_scanFrom, characters, scanFrom_character 0 known, scanFrom_eq_map_shift,
    scan_eq_scanFrom]
  rfl

private theorem endOfLast_marker (tokens : List Token) :
    endOfLast (marker :: tokens.map (shift 1)) = 1 + endOfLast tokens := by
  rw [endOfLast, endOfLast, List.getLast?_cons, List.getLast?_map]
  cases tokens.getLast? <;> rfl

end Token

private theorem Reading.ofTokens_marker {tokens : List Token} (plain : isSecret tokens = false) :
    ofTokens (Token.marker :: tokens.map (Token.shift 1)) = (ofTokens tokens).shift 1 1 := by
  have marked : Opens [Token.marker] (tokens.map (Token.shift 1)) := .secret rfl
  have unmarked : Opens [] tokens := .plain plain
  rw [← List.singleton_append, marked.ofTokens_append, ← List.nil_append tokens,
    unmarked.ofTokens_append]
  exact Progress.read_shift 1 1 (Progress.initial 0) tokens

namespace Wording

private theorem Divides.secret {input : String} {wording : Wording}
    (divides : wording.Divides input) :
    Divides ("S" ++ input) { wording with formula := "S" ++ wording.formula } := by
  have plain : ∀ character ∈ ("S" ++ wording.formula).toList, isComparison character = false := by
    intro character member
    rw [String.toList_append, List.mem_append] at member
    rcases member with marker | inside
    · rw [List.mem_singleton.mp marker]
      rfl
    · exact divides.formula character inside
  have divided := divides.withFormula plain
  rwa [String.append_assoc, String.append_assoc, divides.whole] at divided

private theorem folding_secret (wording : Wording) (foldsCase : Bool) :
    ({ wording with formula := "S" ++ wording.formula } : Wording).folding foldsCase =
      { wording.folding foldsCase with formula := "S" ++ (wording.folding foldsCase).formula } := by
  cases foldsCase with
  | false => rfl
  | true =>
      have upper : ("S" ++ wording.formula).map Char.toUpper =
          "S" ++ wording.formula.map Char.toUpper := by
        apply String.toList_injective
        simp only [String.toList_map, String.toList_append, List.map_append]
        rfl
      simp only [folding, if_pos, folded, upper]

end Wording

/-- A check is diagnosed further on after a longer formula. -/
private theorem Interpretation.checkDiagnostics_secret (interpretation : Interpretation)
    (wording : Wording) (position : Nat) :
    interpretation.checkDiagnostics { wording with formula := "S" ++ wording.formula }
        (1 + position) =
      (interpretation.checkDiagnostics wording position).map (Diagnostic.shift 1 1) := by
  obtain ⟨formula, relation, target⟩ := wording
  have bytes : byteLength ("S" ++ formula).toList = 1 + byteLength formula.toList := by
    rw [String.toList_append, byteLength_append]
    rfl
  rw [checkDiagnostics_eq_map_shift, bytes, interpretation.checkDiagnostics_eq_map_shift formula,
    List.map_map]
  apply List.map_congr_left
  intro diagnostic _
  simp [Diagnostic.shift, Span.shift, Nat.add_assoc]

namespace Reader

variable (reader : Reader) (input : String)

private theorem wording_secret :
    reader.wording ("S" ++ input) =
      { reader.wording input with formula := "S" ++ (reader.wording input).formula } := by
  rw [wording, (Wording.divides_ofInput input).secret.ofInput_eq, Wording.folding_secret]
  rfl

private theorem tokens_secret :
    reader.tokens ("S" ++ input) = Token.marker :: (reader.tokens input).map (Token.shift 1) := by
  rw [tokens, wording_secret, Token.scan_secret]
  rfl

/-- A secret marker before an input that has none has no effect but on places. -/
theorem read_secret {input : String} (plain : ∀ token,
      (reader.tokens input).head? = some token → token.kind ≠ .secret) :
    reader.read ("S" ++ input) =
      ⟨(reader.read input).roll, (reader.read input).diagnostics.map (Diagnostic.shift 1 1)⟩ := by
  have unmarked : Reading.isSecret (reader.tokens input) = false := by
    cases tokens : reader.tokens input with
    | nil => rfl
    | cons token rest => exact decide_eq_false (plain token (by rw [tokens]; rfl))
  have reading : reader.reading ("S" ++ input) = (reader.reading input).shift 1 1 := by
    rw [Reader.reading, tokens_secret, Reading.ofTokens_marker unmarked]
    rfl
  have count : (reader.tokens ("S" ++ input)).length = 1 + (reader.tokens input).length := by
    rw [tokens_secret, List.length_cons, List.length_map, Nat.add_comm]
  have ends : Token.endOfLast (reader.tokens ("S" ++ input)) =
      1 + Token.endOfLast (reader.tokens input) := by
    rw [tokens_secret, Token.endOfLast_marker]
  rw [read_eq, read_eq, reading, count, wording_secret, Reading.diagnostics_shift 1 1 _ ends,
    Interpretation.checkDiagnostics_secret, List.map_append]
  rfl

theorem read_secret_blank :
    let reader := standard .standard
    (∀ token, (reader.tokens " \t=<>é(").head? = some token → token.kind ≠ .secret) ∧
      reader.read ("S" ++ " \t=<>é(") =
        ⟨(reader.read " \t=<>é(").roll,
          (reader.read " \t=<>é(").diagnostics.map (Diagnostic.shift 1 1)⟩ ∧
      (reader.read " \t=<>é(").diagnostics =
        [⟨.missingNumber, 0, ⟨0, 0⟩, ""⟩, ⟨.unknownRelation, 0, ⟨2, 5⟩, "=<>"⟩,
          ⟨.badTarget (.unexpected 0 "é"), 0, ⟨5, 8⟩, "é("⟩] := by
  intro reader
  have blank : reader.tokens " \t=<>é(" = [] := by decide +kernel
  have plain : ∀ token, (reader.tokens " \t=<>é(").head? = some token →
      token.kind ≠ .secret := by
    intro token first
    rw [blank] at first
    cases first
  have diagnosed : (reader.read " \t=<>é(").diagnostics =
      [⟨.missingNumber, 0, ⟨0, 0⟩, ""⟩, ⟨.unknownRelation, 0, ⟨2, 5⟩, "=<>"⟩,
        ⟨.badTarget (.unexpected 0 "é"), 0, ⟨5, 8⟩, "é("⟩] := by
    decide +kernel
  exact ⟨plain, reader.read_secret plain, diagnosed⟩

end Reader

end DiceLanguage
