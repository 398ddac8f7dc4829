import DiceLanguage.Diagnostic
import DiceLanguage.Formula.Reading

/-!
# Diagnoses of a reading

Each gap of a reading is diagnosed as a missing number, and tokens left over
are diagnosed together at the first of them. What is missing at the end of the
tokens is placed at the end of the last one.
-/

set_option autoImplicit false

namespace DiceLanguage

open Text

/-- The byte at which the last token ends; the first byte when there is none. -/
def Token.endOfLast (tokens : List Token) : Nat :=
  (tokens.getLast?.map fun token => token.span.stop).getD 0

namespace Diagnostic

def ofToken (cause : Cause) (position : Nat) (token : Token) : Diagnostic :=
  ⟨cause, position, token.span, token.text⟩

def ofLeftover (position : Nat) (token : Token) (rest : List Token) : Diagnostic :=
  .ofToken (.leftover (rest.length + 1)) position token

def ofEnd (cause : Cause) (position : Nat) (tokens : List Token) : Diagnostic :=
  ⟨cause, position, Span.empty (Token.endOfLast tokens), ""⟩

end Diagnostic

namespace Reading

def Gap.diagnostic (tokens : List Token) (gap : Gap) : Diagnostic :=
  match gap.found with
  | some token => .ofToken .missingNumber gap.position token
  | none => .ofEnd .missingNumber gap.position tokens

def gapDiagnostics (reading : Reading) (tokens : List Token) : List Diagnostic :=
  reading.gaps.map (Gap.diagnostic tokens)

def leftoverDiagnostics (reading : Reading) : List Diagnostic :=
  match reading.leftover with
  | [] => []
  | token :: rest => [.ofLeftover reading.consumed token rest]

def diagnostics (reading : Reading) (tokens : List Token) : List Diagnostic :=
  reading.gapDiagnostics tokens ++ reading.leftoverDiagnostics

end Reading

end DiceLanguage
