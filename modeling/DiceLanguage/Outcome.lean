import DiceLanguage.Diagnostic
import DiceLanguage.Roll

/-!
# Outcomes

What reading a roll gives: a roll always, and the diagnostics of all that was
wrong. A strict mode lets a roll pass only without diagnostics.
-/

set_option autoImplicit false

namespace DiceLanguage

inductive Mode where
  /-- Give the roll along with its diagnostics. -/
  | bestEffort
  /-- Give the roll only if there is no diagnostic. -/
  | strict
  deriving DecidableEq

structure Options where
  mode : Mode
  /-- Whether lower-case letters in a formula are read as upper-case ones. -/
  foldsCase : Bool
  deriving DecidableEq

namespace Options

def standard : Options := ⟨.bestEffort, false⟩

def strict : Options := { standard with mode := .strict }

end Options

structure Outcome where
  roll : Roll
  diagnostics : List Diagnostic
  deriving DecidableEq

namespace Outcome

def hasDiagnostics (outcome : Outcome) : Bool := !outcome.diagnostics.isEmpty

def strictly (outcome : Outcome) : Except Report Roll :=
  match Report.ofList? outcome.diagnostics with
  | none => .ok outcome.roll
  | some report => .error report

def under (outcome : Outcome) : Mode → Except Report Outcome
  | .bestEffort => .ok outcome
  | .strict => outcome.strictly.map fun _ => outcome

end Outcome

end DiceLanguage
