import DiceLanguage.Proofs.Reading.Shift
import DiceLanguage.Proofs.Token.LongestMatch
import DiceLanguage.Proofs.Token.Spans

/-!
# Tokens as a partition

The tokens of a text cover it except for its separators, and no run is divided
between two of them. So a separator has nothing to do with the tokens on either
side of it: main statement `Token.scan_partitions`.
-/

set_option autoImplicit false

namespace DiceLanguage.Token

open Text

def IsMark (token : Token) : Prop :=
  ∃ mark, TokenKind.ofCharacter? mark = some token.kind ∧ token.text = .singleton mark

/-- Some tokens stand in a text one after the other, each where its span says.
They cover all bytes but those of separators, and meet only at a mark. -/
structure IsPartition (text : String) (tokens : List Token) : Prop where
  nonempty : ∀ token ∈ tokens, token.span.start < token.span.stop
  ordered : tokens.Pairwise fun earlier later => earlier.span.stop ≤ later.span.start
  boundaries : ∀ token ∈ tokens,
    String.Pos.Raw.IsValid text ⟨token.span.start⟩ ∧ String.Pos.Raw.IsValid text ⟨token.span.stop⟩
  quotes : ∀ token ∈ tokens, token.span.slice? text.toList = some token.text.toList
  covers : ∀ place byte, text.toByteArray.data[place]? = some byte →
    ((∃ token ∈ tokens, token.span.Contains place) ↔ byte ∉ separatorBytes)
  meets : ∀ earlier ∈ tokens, ∀ later ∈ tokens, earlier.span.stop = later.span.start →
    earlier.IsMark ∨ later.IsMark

variable {text : String}

private theorem isValid_span {token : Token} (member : token ∈ scan text) :
    String.Pos.Raw.IsValid text ⟨token.span.start⟩ ∧
      String.Pos.Raw.IsValid text ⟨token.span.stop⟩ := by
  obtain ⟨before, after, together, span⟩ := exists_append_of_mem_scan member
  have starts : text.toList = before ++ (token.text.toList ++ after) := by
    rw [together, List.append_assoc]
  rw [span, Span.of, ← byteLength_append]
  exact ⟨isValid_byteLength starts, isValid_byteLength together⟩

private theorem exists_contains_iff {place : Nat} {byte : UInt8}
    (stands : text.toByteArray.data[place]? = some byte) :
    (∃ token ∈ scan text, token.span.Contains place) ↔ byte ∉ separatorBytes := by
  rw [← Array.getElem?_toList, ← bytes_toList] at stands
  have covered := (tiles_pieces text.toList).exists_contains_iff role_eq_separating_iff stands
  rw [Nat.zero_add] at covered
  rw [← covered, scan]
  simp only [List.mem_map, exists_exists_and_eq_and, ofPiece]

private theorem isMark_ofPiece {piece : Piece} (alone : piece.IsAlone role) :
    (ofPiece piece).IsMark := by
  obtain ⟨mark, characters, alone⟩ := alone
  rw [role_eq_alone_iff, List.contains_iff_mem, mem_marks_iff] at alone
  obtain ⟨kind, known⟩ := alone
  refine ⟨mark, ?_, ?_⟩
  · rw [ofPiece, characters, TokenKind.ofPiece, known, Option.getD_some]
  · rw [ofPiece, characters, String.singleton_eq_ofList]

private theorem isMark_of_adjacent {earlier later : Token} (first : earlier ∈ scan text)
    (second : later ∈ scan text) (adjacent : earlier.span.stop = later.span.start) :
    earlier.IsMark ∨ later.IsMark := by
  obtain ⟨piece, among, rfl⟩ := List.mem_map.mp first
  obtain ⟨next, amongToo, rfl⟩ := List.mem_map.mp second
  exact (Piece.isAlone_of_adjacent among amongToo adjacent).imp isMark_ofPiece isMark_ofPiece

theorem isPartition_scan (text : String) : IsPartition text (scan text) where
  nonempty _ := start_lt_stop
  ordered := pairwise_scan text
  boundaries _ := isValid_span
  quotes _ member := Span.slice?_eq_some_iff.mpr (exists_append_of_mem_scan member)
  covers _ _ := exists_contains_iff
  meets _ first _ second := isMark_of_adjacent first second

theorem scan_append_separator {separator : Char} (separates : isSeparator separator = true)
    (text after : String) :
    scan (text ++ .singleton separator ++ after) =
      scan text ++ (scan after).map (shift (text ++ .singleton separator).utf8ByteSize) := by
  have closed : ∀ character, ([separator] ++ after.toList).head? = some character →
      role character ≠ .joining := by
    intro character first
    cases first
    rw [(role_eq_separating_iff separator).mpr separates]
    simp
  have length : (text ++ .singleton separator).utf8ByteSize =
      byteLength text.toList + byteLength [separator] := by
    rw [← byteLength_toList, String.toList_append, String.toList_singleton, byteLength_append]
  calc scan (text ++ .singleton separator ++ after)
    _ = scanFrom 0 (text.toList ++ ([separator] ++ after.toList)) := by
      rw [scan_eq_scanFrom, String.toList_append, String.toList_append, String.toList_singleton,
        List.append_assoc]
    _ = scan text ++ scanFrom (byteLength text.toList) ([separator] ++ after.toList) := by
      rw [scanFrom_append_of_head 0 _ closed, ← scan_eq_scanFrom, Nat.zero_add]
    _ = scan text ++ scanFrom (text ++ .singleton separator).utf8ByteSize after.toList := by
      rw [scanFrom_separators _ (by simpa using separates), length]
    _ = scan text ++ (scan after).map (shift (text ++ .singleton separator).utf8ByteSize) := by
      rw [scanFrom_eq_map_shift, ← scan_eq_scanFrom]

/-- The tokens of a text are a partition of it. A separator divides a text for
good: the tokens after it are those of the text after it, moved to the right. -/
theorem scan_partitions (text : String) :
    IsPartition text (scan text) ∧
    ∀ separator after, isSeparator separator = true →
      scan (text ++ .singleton separator ++ after) =
        scan text ++ (scan after).map (shift (text ++ .singleton separator).utf8ByteSize) := by
  refine ⟨isPartition_scan text, ?_⟩
  intro separator after separates
  exact scan_append_separator separates text after

/-- The no-break space is no separator, and each of its bytes is one of a word. -/
theorem scan_partitions_tab :
    let text := "2D\u00a0é"
    isSeparator '\t' = true ∧
      (∃ token ∈ scan text, token.span.Contains 3) ∧
      scan (text ++ .singleton '\t' ++ "+\u00a03") =
        [⟨.number, "2", ⟨0, 1⟩⟩, ⟨.die, "D", ⟨1, 2⟩⟩, ⟨.word, "\u00a0é", ⟨2, 6⟩⟩,
          ⟨.plus, "+", ⟨7, 8⟩⟩, ⟨.word, "\u00a03", ⟨8, 11⟩⟩] := by
  intro text
  have separates : isSeparator '\t' = true := rfl
  obtain ⟨partition, divided⟩ := scan_partitions text
  refine ⟨separates, ?_, ?_⟩
  · exact (partition.covers 3 0xa0 (by decide +kernel)).mpr (by decide)
  · rw [divided '\t' "+\u00a03" separates]
    decide +kernel

end DiceLanguage.Token
