import DiceLanguage.Proofs.Arithmetic.Faults
import DiceLanguage.Proofs.Diagnosis.Order
import DiceLanguage.Proofs.Sides
import DiceLanguage.Proofs.Token.Spans

/-!
# Where diagnostics stand

The span of a diagnostic covers the text that the diagnostic quotes, the spans
of all diagnostics are apart and in order, and an unexpected text in a target
is found where the fault says: main statement `Reader.diagnostics_read_located`.
-/

set_option autoImplicit false

namespace DiceLanguage

open Text

/-! ## Places among tokens -/

inductive Diagnostic.StandsAmong (tokens : List Token) : Diagnostic → Prop where
  | token {cause : Cause} {position : Nat} {token : Token} :
      tokens[position]? = some token → StandsAmong tokens (.ofToken cause position token)
  | ending {cause : Cause} : StandsAmong tokens (.ofEnd cause tokens.length tokens)

namespace Reading.IsPlaced

variable {tokens : List Token} {reading : Reading}

private theorem standsAmong (placed : reading.IsPlaced tokens) :
    ∀ diagnostic ∈ reading.diagnostics tokens, diagnostic.StandsAmong tokens := by
  intro diagnostic member
  rcases List.mem_append.mp member with missing | leftover
  · obtain ⟨gap, among, rfl⟩ := List.mem_map.mp missing
    have found := (placed.found gap among).2
    unfold Gap.diagnostic
    split
    next token stands => exact .token (found.trans stands)
    next nothing =>
      rw [nothing, List.getElem?_eq_none_iff] at found
      rw [Nat.le_antisymm (placed.position_le among) found]
      exact .ending
  · rcases placed.leftoverDiagnostics_cases with ⟨_, token, first, only⟩ | ⟨_, nothing⟩
    · rw [only] at leftover
      rw [List.mem_singleton.mp leftover]
      exact .token first
    · rw [nothing] at leftover
      cases leftover

end Reading.IsPlaced

/-! ## Tokens of a text -/

namespace Token

variable {text : String} {token : Token}

private theorem stop_le_endOfLast (member : token ∈ scan text) :
    token.span.stop ≤ endOfLast (scan text) := by
  have ordered := pairwise_scan text
  have proper : ∀ other ∈ scan text, other.span.start ≤ other.span.stop :=
    fun _ among => Nat.le_of_lt (start_lt_stop among)
  generalize scan text = tokens at member ordered proper
  rcases List.eq_nil_or_concat' tokens with rfl | ⟨earlier, last, rfl⟩
  · cases member
  · have final : endOfLast (earlier ++ [last]) = last.span.stop := by simp [endOfLast]
    rw [final]
    rcases List.mem_append.mp member with before | same
    · have apart := (List.pairwise_append.mp ordered).2.2 token before last List.mem_cons_self
      exact Nat.le_trans apart (proper last (by simp))
    · obtain rfl := List.mem_singleton.mp same
      exact Nat.le_refl _

end Token

namespace Diagnostic.StandsAmong

variable {text : String} {diagnostic other : Diagnostic}

private theorem slice? (stands : diagnostic.StandsAmong (Token.scan text)) :
    diagnostic.span.slice? text.toList = some diagnostic.text.toList := by
  rw [Span.slice?_eq_some_iff]
  cases stands with
  | token found => exact Token.exists_append_of_mem_scan (List.mem_of_getElem? found)
  | ending =>
      change ∃ before after, text.toList = before ++ [] ++ after ∧
        Span.empty (Token.endOfLast (Token.scan text)) = Span.of (byteLength before) []
      rw [Token.endOfLast]
      cases last : (Token.scan text).getLast? with
      | none => exact ⟨[], text.toList, rfl, rfl⟩
      | some token =>
          obtain ⟨before, after, together, span⟩ :=
            Token.exists_append_of_mem_scan (List.mem_of_getLast? last)
          refine ⟨before ++ token.text.toList, after, by rw [together, List.append_nil], ?_⟩
          simp [Span.empty, span, Span.of]

private theorem stop_le_start (stands : diagnostic.StandsAmong (Token.scan text))
    (standsToo : other.StandsAmong (Token.scan text))
    (before : diagnostic.position < other.position) :
    diagnostic.span.stop ≤ other.span.start := by
  have ordered := Token.pairwise_scan text
  cases stands with
  | @token _ position token found =>
      cases standsToo with
      | @token _ further next foundToo =>
          rw [List.pairwise_iff_getElem] at ordered
          obtain ⟨inside, rfl⟩ := List.getElem?_eq_some_iff.mp found
          obtain ⟨insideToo, rfl⟩ := List.getElem?_eq_some_iff.mp foundToo
          exact ordered position further inside insideToo before
      | ending => exact Token.stop_le_endOfLast (List.mem_of_getElem? found)
  | ending =>
      -- No token comes after the end.
      cases standsToo with
      | @token _ further _ foundToo =>
          obtain ⟨inside, _⟩ := List.getElem?_eq_some_iff.mp foundToo
          exact absurd inside (Nat.lt_asymm before)
      | ending => exact absurd before (Nat.lt_irrefl _)

end Diagnostic.StandsAmong

/-! ## Places in an input -/

namespace Text.Span

variable {span : Span} {text slice : List Char}

private theorem slice?_append (found : span.slice? text = some slice) (more : List Char) :
    span.slice? (text ++ more) = some slice := by
  rw [slice?_eq_some_iff] at found ⊢
  obtain ⟨before, after, rfl, covers⟩ := found
  exact ⟨before, after ++ more, List.append_assoc .., covers⟩

private theorem stop_le_of_slice? (found : span.slice? text = some slice) :
    span.stop ≤ byteLength text := by
  rw [slice?_eq_some_iff] at found
  obtain ⟨before, after, rfl, rfl⟩ := found
  simp only [Span.of, byteLength_append]
  omega

/-- Folding moves no byte, so it folds what a span covers. -/
private theorem exists_slice?_of_map_toUpper
    (found : span.slice? (text.map Char.toUpper) = some slice) :
    ∃ original, span.slice? text = some original ∧ slice = original.map Char.toUpper := by
  rw [slice?_eq_some_iff] at found
  obtain ⟨_, _, together, covers⟩ := found
  obtain ⟨covered, after, rfl, inside, rfl⟩ := List.map_eq_append_iff.mp together
  obtain ⟨before, original, rfl, rfl, rfl⟩ := List.map_eq_append_iff.mp inside
  refine ⟨original, ?_, rfl⟩
  rw [slice?_eq_some_iff]
  refine ⟨before, after, rfl, ?_⟩
  rw [covers, Span.of, Span.of, Wording.byteLength_map_toUpper, Wording.byteLength_map_toUpper]

end Text.Span

private theorem Wording.targetSpan_eq (wording : Wording) :
    wording.targetSpan =
      Span.of (byteLength (wording.formula.toList ++ wording.relation.toList))
        wording.target.toList := by
  simp only [targetSpan, relationSpan, Span.of, byteLength_append]

namespace Wording.Divides

variable {input : String} {wording : Wording}

private theorem toList (divides : wording.Divides input) :
    input.toList = wording.formula.toList ++ (wording.relation.toList ++ wording.target.toList) := by
  rw [← divides.whole, String.toList_append, String.toList_append]

private theorem slice?_formula (divides : wording.Divides input) {span : Span} {slice : List Char}
    (found : span.slice? wording.formula.toList = some slice) :
    span.slice? input.toList = some slice := by
  rw [divides.toList]
  exact Span.slice?_append found _

private theorem slice?_relationSpan (divides : wording.Divides input) :
    wording.relationSpan.slice? input.toList = some wording.relation.toList := by
  rw [Span.slice?_eq_some_iff, divides.toList]
  exact ⟨wording.formula.toList, wording.target.toList, (List.append_assoc ..).symm, rfl⟩

private theorem slice?_targetSpan (divides : wording.Divides input) :
    wording.targetSpan.slice? input.toList = some wording.target.toList := by
  rw [Span.slice?_eq_some_iff, divides.toList, targetSpan_eq]
  refine ⟨wording.formula.toList ++ wording.relation.toList, [], ?_, rfl⟩
  rw [List.append_nil, List.append_assoc]

end Wording.Divides

private theorem Interpretation.apart_checkDiagnostics (interpretation : Interpretation)
    (wording : Wording) (position : Nat) :
    (∀ diagnostic ∈ interpretation.checkDiagnostics wording position,
      byteLength wording.formula.toList ≤ diagnostic.span.start) ∧
    (interpretation.checkDiagnostics wording position).Pairwise fun earlier later =>
      earlier.span.stop ≤ later.span.start := by
  obtain ⟨unknown, bad, together, relation, target⟩ :=
    interpretation.exists_checkDiagnostics_eq wording position
  rw [together]
  rcases relation with rfl | rfl <;> rcases target with rfl | ⟨fault, _, rfl⟩ <;>
    simp [Wording.targetSpan, Wording.relationSpan, Span.of]

/-- A diagnostic quotes the input where it stands. Letters of the formula are
quoted as they are read, and what is missing at the end of the formula stands
at the end of its last token. -/
structure Diagnostic.IsLocated (foldsCase : Bool) (wording : Wording) (tokens : List Token)
    (input : String) (diagnostic : Diagnostic) : Prop where
  quotes : ∃ slice, diagnostic.span.slice? input.toList = some slice ∧
    diagnostic.text.toList =
      if diagnostic.cause.isOfFormula ∧ foldsCase then slice.map Char.toUpper else slice
  ends : diagnostic.cause.isOfFormula = true → diagnostic.position = tokens.length →
    diagnostic.span = Span.empty (Token.endOfLast tokens)
  ofFormula : diagnostic.cause.isOfFormula = true →
    diagnostic.span.stop ≤ byteLength wording.formula.toList
  ofRelation : diagnostic.cause = .unknownRelation →
    diagnostic.span = Span.of (byteLength wording.formula.toList) wording.relation.toList ∧
      diagnostic.text = wording.relation
  ofTarget : ∀ fault, diagnostic.cause = .badTarget fault →
    diagnostic.span =
        Span.of (byteLength (wording.formula.toList ++ wording.relation.toList))
          wording.target.toList ∧
      diagnostic.text = wording.target

namespace Reader

variable (reader : Reader) {input : String} {diagnostic : Diagnostic}

private theorem mem_diagnostics_read_cases (member : diagnostic ∈ (reader.read input).diagnostics) :
    let wording := Wording.ofInput input
    let count := (reader.tokens input).length
    (diagnostic.cause.isOfFormula = true ∧ diagnostic.StandsAmong (reader.tokens input)) ∨
    diagnostic = ⟨.unknownRelation, count, wording.relationSpan, wording.relation⟩ ∨
    ∃ fault, reader.interpretation.target wording = .error fault ∧
      diagnostic = ⟨.badTarget fault, count, wording.targetSpan, wording.target⟩ := by
  intro wording count
  have divides : wording.Divides input := Wording.divides_ofInput input
  rw [reader.read_divided divides, reader.read_formula divides] at member
  rcases List.mem_append.mp member with ofFormula | ofCheck
  · have stands := (reader.reading_isPlaced input).standsAmong diagnostic ofFormula
    exact .inl ⟨Reading.isOfFormula_of_mem_diagnostics ofFormula, stands⟩
  · exact .inr (reader.interpretation.mem_checkDiagnostics_cases wording ofCheck)

private theorem isLocated_of_standsAmong (ofFormula : diagnostic.cause.isOfFormula = true)
    (stands : diagnostic.StandsAmong (reader.tokens input)) :
    diagnostic.IsLocated reader.options.foldsCase (Wording.ofInput input) (reader.tokens input)
      input := by
  have divides : (Wording.ofInput input).Divides input := Wording.divides_ofInput input
  obtain ⟨slice, found, text⟩ : ∃ slice,
      diagnostic.span.slice? (Wording.ofInput input).formula.toList = some slice ∧
        diagnostic.text.toList =
          if reader.options.foldsCase then slice.map Char.toUpper else slice := by
    have found := stands.slice?
    rw [wording, Wording.toList_formula_folding] at found
    split at found
    next folds =>
      obtain ⟨slice, found, text⟩ := Span.exists_slice?_of_map_toUpper found
      exact ⟨slice, found, by rw [text, if_pos folds]⟩
    next keeps => exact ⟨_, found, by rw [if_neg keeps]⟩
  constructor
  case quotes => exact ⟨slice, divides.slice?_formula found, by simpa [ofFormula] using text⟩
  case ends =>
    intro _ ends
    cases stands with
    | @token _ position token stands =>
        obtain ⟨inside, _⟩ := List.getElem?_eq_some_iff.mp stands
        exact absurd ends (Nat.ne_of_lt inside)
    | ending => rfl
  case ofFormula => exact fun _ => Span.stop_le_of_slice? found
  case ofRelation => exact fun unknown => absurd ofFormula (by simp [unknown, Cause.isOfFormula])
  case ofTarget => exact fun _ bad => absurd ofFormula (by simp [bad, Cause.isOfFormula])

theorem isLocated_of_mem (member : diagnostic ∈ (reader.read input).diagnostics) :
    diagnostic.IsLocated reader.options.foldsCase (Wording.ofInput input) (reader.tokens input)
      input := by
  have divides : (Wording.ofInput input).Divides input := Wording.divides_ofInput input
  rcases reader.mem_diagnostics_read_cases member with
    ⟨ofFormula, stands⟩ | rfl | ⟨fault, _, rfl⟩
  · exact reader.isLocated_of_standsAmong ofFormula stands
  · constructor
    case quotes => exact ⟨_, divides.slice?_relationSpan, by simp [Cause.isOfFormula]⟩
    case ofRelation => exact fun _ => ⟨rfl, rfl⟩
    all_goals nofun
  · constructor
    case quotes => exact ⟨_, divides.slice?_targetSpan, by simp [Cause.isOfFormula]⟩
    case ofTarget => exact fun _ _ => ⟨Wording.targetSpan_eq _, rfl⟩
    all_goals nofun

theorem pairwise_diagnostics_read (input : String) :
    (reader.read input).diagnostics.Pairwise fun earlier later =>
      earlier.span.stop ≤ later.span.start := by
  have divides : (Wording.ofInput input).Divides input := Wording.divides_ofInput input
  have placed := reader.reading_isPlaced input
  obtain ⟨beyond, ordered⟩ := reader.interpretation.apart_checkDiagnostics
    (Wording.ofInput input) (reader.tokens input).length
  rw [reader.read_divided divides, reader.read_formula divides, List.pairwise_append]
  refine ⟨?_, ordered, ?_⟩
  · apply placed.pairwise_position.imp_of_mem
    intro earlier later earlierMember laterMember before
    exact (placed.standsAmong earlier earlierMember).stop_le_start
      (placed.standsAmong later laterMember) before
  · intro earlier earlierMember later laterMember
    have ofFormula := Reading.isOfFormula_of_mem_diagnostics earlierMember
    have located := reader.isLocated_of_standsAmong ofFormula
      (placed.standsAmong earlier earlierMember)
    exact Nat.le_trans (located.ofFormula ofFormula) (beyond later laterMember)

/-- Every diagnostic stands where it says, and all of them are apart and in
order. A text that arithmetic did not expect stands in the target that is
quoted, once the blanks around it are trimmed, where the fault says. -/
theorem diagnostics_read_located (input : String) :
    let wording := Wording.ofInput input
    let tokens := reader.tokens input
    let diagnostics := (reader.read input).diagnostics
    wording.Divides input ∧
    (∀ diagnostic ∈ diagnostics,
      diagnostic.IsLocated reader.options.foldsCase wording tokens input) ∧
    (diagnostics.Pairwise fun earlier later => earlier.span.stop ≤ later.span.start) ∧
    (reader.interpretation.value = Arithmetic.evaluate →
      ∀ diagnostic ∈ diagnostics, ∀ position found,
        diagnostic.cause = .badTarget (.unexpected position found) →
          ∃ before after, trimmed diagnostic.text.toList = before ++ found.toList ++ after ∧
            byteLength before = position ∧ found ≠ "") := by
  intro wording tokens diagnostics
  refine ⟨Wording.divides_ofInput input, ?_, reader.pairwise_diagnostics_read input, ?_⟩
  · intro diagnostic member
    exact reader.isLocated_of_mem member
  · intro usual diagnostic member position found unexpected
    rcases reader.mem_diagnostics_read_cases member with
      ⟨ofFormula, _⟩ | rfl | ⟨fault, failed, rfl⟩
    · rw [unexpected] at ofFormula
      cases ofFormula
    · cases unexpected
    · cases unexpected
      obtain ⟨_, failed⟩ := (reader.interpretation.target_eq_error_iff _ _).mp failed
      rw [usual] at failed
      have stands := Arithmetic.exists_append_of_evaluate failed
      rwa [Wording.trimmedTarget, String.toList_ofList] at stands

/-- Letters are folded in what is quoted of the formula, and nowhere else. -/
theorem diagnostics_read_located_folding :
    let input := "2déx /u>= 1(é"
    let reader := standard ⟨.bestEffort, true⟩
    let bad : Diagnostic := ⟨.badTarget (.unexpected 1 "("), 5, ⟨10, 15⟩, " 1(é"⟩
    (reader.read input).diagnostics =
        [⟨.missingNumber, 2, ⟨2, 5⟩, "éX"⟩, ⟨.missingNumber, 4, ⟨7, 8⟩, "U"⟩, bad] ∧
      bad.IsLocated true (Wording.ofInput input) (reader.tokens input) input ∧
      ∃ before after, trimmed " 1(é".toList = before ++ "(".toList ++ after ∧
        byteLength before = 1 ∧ "(" ≠ "" := by
  intro input reader bad
  have diagnosed : (reader.read input).diagnostics =
      [⟨.missingNumber, 2, ⟨2, 5⟩, "éX"⟩, ⟨.missingNumber, 4, ⟨7, 8⟩, "U"⟩, bad] := by
    decide +kernel
  have member : bad ∈ (reader.read input).diagnostics := by
    rw [diagnosed]
    exact List.mem_of_getLast? rfl
  obtain ⟨_, located, _, unexpected⟩ := reader.diagnostics_read_located input
  exact ⟨diagnosed, located bad member, unexpected rfl bad member 1 "(" rfl⟩

end Reader

end DiceLanguage
