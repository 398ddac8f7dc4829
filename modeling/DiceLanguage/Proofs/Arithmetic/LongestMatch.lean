import DiceLanguage.Arithmetic.Lexeme
import DiceLanguage.Proofs.Text.Blank
import DiceLanguage.Proofs.Text.LongestMatch
import DiceLanguage.Proofs.Text.Pieces

/-!
# Lexemes by longest match

Lexemes too can be found by rules: digits are a literal, blanks are passed
over, and each mark has a rule of its own. Any other character is an unknown
lexeme. By longest match the rules lead to the lexemes of the scan and to no
others: main statement `Lexeme.lexes_iff`.
-/

set_option autoImplicit false

namespace DiceLanguage.Arithmetic

open Text Computability

theorem Symbol.ofPiece_of_isDigit {run : List Char}
    (isDigit : ∀ character ∈ run, character.isDigit = true) :
    ofPiece run = .literal (Numeral.value run) := by
  have all : run.all Char.isDigit = true := List.all_eq_true.mpr isDigit
  unfold ofPiece
  split
  all_goals first
    | rw [if_pos all]
    | cases isDigit _ List.mem_cons_self

namespace Lexeme

theorem role_of_isDigit {digit : Char} (isDigit : digit.isDigit = true) :
    role digit = .joining := by
  simp [role, isSeparator_of_isDigit isDigit, isDigit]

theorem isDigit_of_role {character : Char} (joins : role character = .joining) :
    character.isDigit = true := by
  unfold role at joins
  split at joins
  next => cases joins
  next =>
    split at joins
    next digit => exact digit
    next => cases joins

private theorem role_of_isSeparator {separator : Char} (separates : isSeparator separator = true) :
    role separator = .separating := if_pos separates

/-! ## Rules -/

def mark? : Char → Option Symbol
  | '+' => some .plus
  | '-' => some .minus
  | '*' => some .star
  | '/' => some .slash
  | '(' => some .opening
  | ')' => some .closing
  | _ => none

inductive Rule where
  | digits
  | mark (symbol : Symbol)
  | blanks

def language : Rule → Language Char
  | .digits => oneOf Char.isDigit * (oneOf Char.isDigit)∗
  | .mark symbol => oneOf fun character => mark? character = some symbol
  | .blanks => oneOf isSeparator * (oneOf isSeparator)∗

private theorem ne_nil_of_mem_language (rule : Rule) (text : List Char)
    (covered : text ∈ language rule) : text ≠ [] := by
  cases rule with
  | digits => exact (mem_plus_oneOf.mp covered).1
  | mark symbol =>
      obtain ⟨_, _, rfl⟩ := covered
      simp
  | blanks => exact (mem_plus_oneOf.mp covered).1

def rules : LexicalRules Rule Lexeme where
  language := language
  item?
    | .digits, start, slice => some ⟨.literal (Numeral.value slice), start, .ofList slice⟩
    | .mark symbol, start, slice => some ⟨symbol, start, .ofList slice⟩
    | .blanks, _, _ => none
  unknown start character := ⟨.unknown, start, .singleton character⟩
  ne_nil := ne_nil_of_mem_language

/-! ## The scan -/

def scanFrom (start : Nat) (text : List Char) : List Lexeme :=
  (piecesFrom role start text).map ofPiece

private theorem ofPiece_singleton (character : Char) :
    Symbol.ofPiece [character] =
      (mark? character).getD
        (if character.isDigit then .literal (Numeral.value [character]) else .unknown) := by
  unfold Symbol.ofPiece mark?
  split <;> simp_all

private theorem role_of_mark? {character : Char} {symbol : Symbol}
    (isMark : mark? character = some symbol) : role character = .alone := by
  unfold mark? at isMark
  split at isMark <;> first | rfl | cases isMark

private theorem scanFrom_alone {character : Char} (alone : role character = .alone)
    (start : Nat) (rest : List Char) :
    scanFrom start (character :: rest) =
      ⟨.ofPiece [character], start, .ofList [character]⟩ ::
        scanFrom (start + character.utf8Size) rest := by
  rw [scanFrom, piecesFrom_alone start alone]
  rfl

/-- A longest match of digits is one literal. -/
private theorem scanFrom_digits {run rest : List Char} (munches : rules.Munches .digits run rest)
    (start : Nat) :
    scanFrom start (run ++ rest) =
      ⟨.literal (Numeral.value run), start, .ofList run⟩ ::
        scanFrom (start + byteLength run) rest := by
  obtain ⟨nonempty, digits⟩ := mem_plus_oneOf.mp munches.covers
  have closed : ∀ character, rest.head? = some character → role character ≠ .joining := by
    intro character next joins
    have longer : ∀ other ∈ run ++ [character], other.isDigit = true :=
      List.forall_mem_append.mpr ⟨digits, List.forall_mem_singleton.mpr (isDigit_of_role joins)⟩
    have covered : run ++ [character] ∈ rules.language .digits :=
      mem_plus_oneOf.mpr ⟨by simp, longer⟩
    exact munches.not_mem_append next covered
  rw [scanFrom, piecesFrom_run start nonempty (fun _ member => role_of_isDigit (digits _ member))
    closed, List.map_cons, ofPiece, Symbol.ofPiece_of_isDigit digits]
  rfl

private theorem scanFrom_munches {rule : Rule} {slice rest : List Char}
    (munches : rules.Munches rule slice rest) (start : Nat) :
    scanFrom start (slice ++ rest) =
      (rules.item? rule start slice).toList ++ scanFrom (start + byteLength slice) rest := by
  cases rule with
  | digits => exact scanFrom_digits munches start
  | mark symbol =>
      obtain ⟨character, isMark, rfl⟩ := munches.covers
      rw [decide_eq_true_eq] at isMark
      rw [List.singleton_append, scanFrom_alone (role_of_mark? isMark), ofPiece_singleton, isMark]
      rfl
  | blanks =>
      have separators := (mem_plus_oneOf.mp munches.covers).2
      rw [scanFrom, piecesFrom_separators start fun _ member =>
        role_of_isSeparator (separators _ member)]
      rfl

private theorem scanFrom_unmatched {character : Char} {rest : List Char}
    (unmatched : rules.Unmatched (character :: rest)) (start : Nat) :
    scanFrom start (character :: rest) =
      rules.unknown start character :: scanFrom (start + character.utf8Size) rest := by
  have uncovered (rule : Rule) : [character] ∉ language rule := unmatched rule [character] (by simp)
  have noSeparator : isSeparator character = false := by
    rw [Bool.eq_false_iff]
    exact fun separator => uncovered .blanks (mem_plus_oneOf.mpr (by simpa using separator))
  have noDigit : character.isDigit = false := by
    rw [Bool.eq_false_iff]
    exact fun digit => uncovered .digits (mem_plus_oneOf.mpr (by simpa using digit))
  have noMark : mark? character = none := by
    rw [Option.eq_none_iff_forall_ne_some]
    exact fun symbol isMark => uncovered (.mark symbol) ⟨character, decide_eq_true isMark, rfl⟩
  have alone : role character = .alone := by simp [role, noSeparator, noDigit]
  have unknown : Symbol.ofPiece [character] = .unknown := by
    simp [ofPiece_singleton, noMark, noDigit]
  rw [scanFrom_alone alone, unknown, ← String.singleton_eq_ofList]
  rfl

private theorem scans_scanFrom : rules.Scans scanFrom where
  done _ := rfl
  matched munches start := scanFrom_munches munches start
  unmatched unmatched start := scanFrom_unmatched unmatched start

/-- The rules lead to the lexemes of the scan and to no others. -/
theorem lexes_iff {text : String} {lexemes : List Lexeme} :
    rules.Lexes 0 text.toList lexemes ↔ lexemes = scan text := by
  rw [scan, ← piecesFrom_zero]
  exact scans_scanFrom.lexes_iff

end Lexeme

end DiceLanguage.Arithmetic
