import DiceLanguage.Proofs.Text.LongestMatch
import DiceLanguage.Proofs.Token
import Mathlib.Data.List.TakeWhile

/-!
# Tokens by longest match

Tokens can be found by rules instead of roles. A rule covers some texts:

    number   digit digit*
    word     digit* (solid, no digit) solid*
    blanks   separator separator*

and each mark has a rule of its own, where solid characters are those that
neither separate nor are marks. By longest match these rules lead to the tokens
of the scan and to no others, so no token of a text is unknown: main statement
`Token.lexes_iff`.
-/

set_option autoImplicit false

namespace DiceLanguage

open Text Computability

namespace Token

def marks : List Char := ['+', '-', '*', '/', 'D', 'U', 'R', 'S', '@']

theorem mem_marks_iff (character : Char) :
    character ∈ marks ↔ ∃ kind, TokenKind.ofCharacter? character = some kind := by
  constructor
  · intro member
    simp only [marks, List.mem_cons, List.not_mem_nil, or_false] at member
    rcases member with rfl | rfl | rfl | rfl | rfl | rfl | rfl | rfl | rfl <;> exact ⟨_, rfl⟩
  · rintro ⟨kind, known⟩
    unfold TokenKind.ofCharacter? at known
    split at known
    case h_10 => cases known
    all_goals simp [marks]

def isSolid (character : Char) : Bool := !isSeparator character && !marks.contains character

private theorem role_eq_joining_iff (character : Char) :
    role character = .joining ↔ isSolid character = true := by
  have mark := mem_marks_iff character
  unfold role isSolid
  cases isSeparator character <;> cases kind : TokenKind.ofCharacter? character <;>
    simp_all

theorem role_eq_separating_iff (character : Char) :
    role character = .separating ↔ isSeparator character = true := by
  unfold role
  cases isSeparator character <;> cases TokenKind.ofCharacter? character <;> simp

theorem role_eq_alone_iff (character : Char) :
    role character = .alone ↔ marks.contains character = true := by
  rw [List.contains_iff_mem, mem_marks_iff]
  constructor
  · intro alone
    unfold role at alone
    split at alone
    · cases alone
    · split at alone
      next known => exact Option.isSome_iff_exists.mp known
      next => cases alone
  · rintro ⟨kind, known⟩
    exact role_eq_alone known

/-! ## Rules -/

/-- The texts that the rule of a kind covers; without a kind, the blanks. -/
def language : Option TokenKind → Language Char
  | none => oneOf isSeparator * (oneOf isSeparator)∗
  | some .number => oneOf Char.isDigit * (oneOf Char.isDigit)∗
  | some .word =>
      (oneOf Char.isDigit)∗ *
        (oneOf (fun character => isSolid character && !character.isDigit) *
          (oneOf isSolid)∗)
  | some kind => oneOf fun character => TokenKind.ofCharacter? character = some kind

variable {text : List Char}

private theorem mem_language_number :
    text ∈ language (some .number) ↔ text ≠ [] ∧ ∀ character ∈ text, character.isDigit = true :=
  mem_plus_oneOf

private theorem mem_language_none :
    text ∈ language none ↔ text ≠ [] ∧ ∀ character ∈ text, isSeparator character = true :=
  mem_plus_oneOf

private theorem isSolid_of_isDigit {digit : Char} (isDigit : digit.isDigit = true) :
    isSolid digit = true := by
  rw [← role_eq_joining_iff]
  exact role_eq_joining isDigit

private theorem mem_language_word :
    text ∈ language (some .word) ↔
      (∀ character ∈ text, isSolid character = true) ∧
        ∃ character ∈ text, character.isDigit = false := by
  simp only [language, Language.mem_mul, mem_kstar_oneOf, mem_oneOf]
  constructor
  · rintro ⟨digits, areDigits, _, ⟨_, ⟨first, isFirst, rfl⟩, rest, areSolid, rfl⟩, rfl⟩
    rw [Bool.and_eq_true, Bool.not_eq_true'] at isFirst
    constructor
    · intro character member
      simp only [List.mem_append, List.mem_cons, List.not_mem_nil, or_false] at member
      rcases member with member | rfl | member
      · exact isSolid_of_isDigit (areDigits character member)
      · exact isFirst.1
      · exact areSolid character member
    · exact ⟨first, by simp, isFirst.2⟩
  · rintro ⟨areSolid, other, member, noDigit⟩
    -- The first character that is no digit stands right after the leading digits.
    have split := List.takeWhile_append_dropWhile (p := Char.isDigit) (l := text)
    cases dropped : text.dropWhile Char.isDigit with
    | nil =>
        have digit := List.dropWhile_eq_nil_iff.mp dropped other member
        rw [digit] at noDigit
        cases noDigit
    | cons first rest =>
        rw [dropped] at split
        have isFirst : first.isDigit = false := by
          have head := List.head_dropWhile_not Char.isDigit (l := text) (by simp [dropped])
          simpa [dropped] using head
        have solid : ∀ character ∈ first :: rest, isSolid character = true := by
          intro character member
          exact areSolid character (split ▸ List.mem_append_right _ member)
        rw [List.forall_mem_cons] at solid
        refine ⟨_, fun _ member => List.mem_takeWhile_imp member, first :: rest, ?_, split⟩
        exact ⟨[first], ⟨first, by simp [solid.1, isFirst], rfl⟩, rest, solid.2, rfl⟩

private theorem exists_character_of_mem_language {kind : TokenKind} (number : kind ≠ .number)
    (word : kind ≠ .word) (covered : text ∈ language (some kind)) :
    ∃ mark, TokenKind.ofCharacter? mark = some kind ∧ text = [mark] := by
  cases kind with
  | number => exact absurd rfl number
  | word => exact absurd rfl word
  | _ =>
      obtain ⟨mark, known, rfl⟩ := covered
      exact ⟨mark, of_decide_eq_true known, rfl⟩

private theorem mem_language_mark {mark : Char} {kind : TokenKind}
    (known : TokenKind.ofCharacter? mark = some kind) : [mark] ∈ language (some kind) := by
  have number : TokenKind.ofCharacter? mark ≠ some .number := by
    unfold TokenKind.ofCharacter?
    split <;> simp
  have word : TokenKind.ofCharacter? mark ≠ some .word := by
    unfold TokenKind.ofCharacter?
    split <;> simp
  cases kind with
  | number => exact absurd known number
  | word => exact absurd known word
  | _ => exact ⟨mark, decide_eq_true known, rfl⟩

/-- A run of solid characters is covered by the rule of the kind that it has. -/
private theorem mem_language_ofRun (nonempty : text ≠ [])
    (solid : ∀ character ∈ text, isSolid character = true) :
    text ∈ language (some (TokenKind.ofRun text)) := by
  unfold TokenKind.ofRun
  split
  next digits => exact mem_language_number.mpr ⟨nonempty, List.all_eq_true.mp digits⟩
  next other =>
    rw [Bool.not_eq_true, List.all_eq_false] at other
    simp only [Bool.not_eq_true] at other
    exact mem_language_word.mpr ⟨solid, other⟩

private theorem ne_nil_of_mem_language (rule : Option TokenKind) (text : List Char)
    (covered : text ∈ language rule) : text ≠ [] := by
  cases rule with
  | none => exact (mem_language_none.mp covered).1
  | some kind =>
      by_cases number : kind = .number
      · subst number
        exact (mem_language_number.mp covered).1
      · by_cases word : kind = .word
        · subst word
          obtain ⟨_, other, member, _⟩ := mem_language_word.mp covered
          exact List.ne_nil_of_mem member
        · obtain ⟨mark, _, rfl⟩ := exists_character_of_mem_language number word covered
          simp

def rules : LexicalRules (Option TokenKind) Token where
  language := language
  item? rule start slice := rule.map fun kind => ⟨kind, .ofList slice, .of start slice⟩
  unknown start character := ⟨.unknown, .singleton character, .of start [character]⟩
  ne_nil := ne_nil_of_mem_language

/-- Some rule covers any single character. -/
private theorem exists_rule (character : Char) : ∃ rule, [character] ∈ language rule := by
  cases part : role character with
  | separating =>
      rw [role_eq_separating_iff] at part
      exact ⟨none, mem_language_none.mpr (by simpa using part)⟩
  | alone =>
      rw [role_eq_alone_iff, List.contains_iff_mem, mem_marks_iff] at part
      obtain ⟨kind, known⟩ := part
      exact ⟨some kind, mem_language_mark known⟩
  | joining =>
      rw [role_eq_joining_iff] at part
      exact ⟨_, mem_language_ofRun (by simp) (by simpa using part)⟩

/-! ## The scan -/

theorem scanFrom_separators (start : Nat) {slice : List Char}
    (separators : ∀ character ∈ slice, isSeparator character = true) (rest : List Char) :
    scanFrom start (slice ++ rest) = scanFrom (start + byteLength slice) rest := by
  have separating : ∀ character ∈ slice, role character = .separating := by
    intro character member
    exact (role_eq_separating_iff character).mpr (separators character member)
  rw [scanFrom, piecesFrom_separators start separating]
  rfl

private theorem ofPiece_of_solid {run : List Char}
    (solid : ∀ character ∈ run, isSolid character = true) :
    TokenKind.ofPiece run = TokenKind.ofRun run := by
  unfold TokenKind.ofPiece
  split
  next character =>
    have noMark : TokenKind.ofCharacter? character = none := by
      cases known : TokenKind.ofCharacter? character with
      | none => rfl
      | some kind =>
          have joins := (role_eq_joining_iff character).mpr (solid _ List.mem_cons_self)
          rw [role_eq_alone known] at joins
          cases joins
    rw [noMark, Option.getD_none]
  next => rfl

/-- A longest match of solid characters is one token. -/
private theorem scanFrom_run {rule : Option TokenKind} {run rest : List Char}
    (munches : rules.Munches rule run rest)
    (solid : ∀ character ∈ run, isSolid character = true) (start : Nat) :
    scanFrom start (run ++ rest) =
      ⟨.ofRun run, .ofList run, .of start run⟩ ::
        scanFrom (start + byteLength run) rest := by
  have joins : ∀ character ∈ run, role character = .joining := by
    intro character member
    exact (role_eq_joining_iff character).mpr (solid character member)
  have closed : ∀ character, rest.head? = some character → role character ≠ .joining := by
    intro character next joins
    rw [role_eq_joining_iff] at joins
    have longer : ∀ other ∈ run ++ [character], isSolid other = true :=
      List.forall_mem_append.mpr ⟨solid, List.forall_mem_singleton.mpr joins⟩
    exact munches.not_mem_append next (mem_language_ofRun (by simp) longer)
  rw [scanFrom, piecesFrom_run start (rules.ne_nil rule run munches.covers) joins closed,
    List.map_cons, ofPiece, ofPiece_of_solid solid]
  rfl

private theorem scanFrom_munches {rule : Option TokenKind} {slice rest : List Char}
    (munches : rules.Munches rule slice rest) (start : Nat) :
    scanFrom start (slice ++ rest) =
      (rules.item? rule start slice).toList ++ scanFrom (start + byteLength slice) rest := by
  cases rule with
  | none => exact scanFrom_separators start (mem_language_none.mp munches.covers).2 rest
  | some kind =>
      by_cases number : kind = .number
      · subst number
        have digits := (mem_language_number.mp munches.covers).2
        have solid : ∀ character ∈ slice, isSolid character = true := by
          intro character member
          exact isSolid_of_isDigit (digits character member)
        rw [scanFrom_run munches solid, TokenKind.ofRun, if_pos (List.all_eq_true.mpr digits)]
        rfl
      · by_cases word : kind = .word
        · subst word
          obtain ⟨solid, other, member, noDigit⟩ := mem_language_word.mp munches.covers
          have notDigits : slice.all Char.isDigit = false :=
            List.all_eq_false.mpr ⟨other, member, by simp [noDigit]⟩
          rw [scanFrom_run munches solid, TokenKind.ofRun, notDigits, if_neg Bool.false_ne_true]
          rfl
        · obtain ⟨mark, known, rfl⟩ :=
            exists_character_of_mem_language number word munches.covers
          exact scanFrom_character start known rest

private theorem scans_scanFrom : rules.Scans scanFrom where
  done _ := rfl
  matched munches start := scanFrom_munches munches start
  unmatched {character rest} unmatched start := by
    obtain ⟨rule, covered⟩ := exists_rule character
    have begins : [character] <+: character :: rest := by simp
    exact absurd covered (unmatched rule [character] begins)

/-- The rules lead to the tokens of the scan and to no others. -/
theorem lexes_iff {text : String} {tokens : List Token} :
    rules.Lexes 0 text.toList tokens ↔ tokens = scan text := by
  rw [scan_eq_scanFrom]
  exact scans_scanFrom.lexes_iff

end Token

end DiceLanguage
