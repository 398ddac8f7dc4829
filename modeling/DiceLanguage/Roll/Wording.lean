import DiceLanguage.Text.Blank
import DiceLanguage.Text.Span

/-!
# The wording of a roll

The first run of comparison characters divides an input: the formula stands
before it and the target after it. Further comparison characters belong to the
target. The three texts together are the input.
-/

set_option autoImplicit false

namespace DiceLanguage

open Text

structure Wording where
  formula : String
  relation : String
  target : String
  deriving DecidableEq

namespace Wording

def isComparison (character : Char) : Bool :=
  character = '<' || character = '>' || character = '='

/-- Divides an input at its first run of comparison characters. -/
def ofInput (input : String) : Wording :=
  let fromRelation := input.toList.dropWhile (!isComparison ·)
  { formula := String.ofList (input.toList.takeWhile (!isComparison ·))
    relation := String.ofList (fromRelation.takeWhile isComparison)
    target := String.ofList (fromRelation.dropWhile isComparison) }

def relationSpan (wording : Wording) : Span :=
  Span.of (byteLength wording.formula.toList) wording.relation.toList

/-- Where the target stands in the input, blanks around it included. -/
def targetSpan (wording : Wording) : Span :=
  Span.of wording.relationSpan.stop wording.target.toList

def trimmedTarget (wording : Wording) : String := String.ofList (trimmed wording.target.toList)

/-- Whether a comparison is asked for: both its relation and its target have
some text. -/
def hasCheck (wording : Wording) : Bool :=
  wording.relation != "" && wording.trimmedTarget != ""

/-- The wording with the ASCII letters of the formula in upper case. No byte
moves, so spans in the formula stay as they are. -/
def folded (wording : Wording) : Wording :=
  { wording with formula := wording.formula.map Char.toUpper }

def folding (wording : Wording) (foldsCase : Bool) : Wording :=
  if foldsCase then wording.folded else wording

/-- The texts of a wording make up the input. -/
theorem ofInput_append (input : String) :
    (ofInput input).formula ++ (ofInput input).relation ++ (ofInput input).target = input := by
  apply String.toList_injective
  simp [ofInput, List.append_assoc]

end Wording

end DiceLanguage
