import DiceLanguage.Arithmetic.Evaluation
import DiceLanguage.Journal
import DiceLanguage.Outcome
import DiceLanguage.Roll.Diagnosis
import DiceLanguage.Roll.Wording

/-!
# The steps of a reading

What a relation and a target mean is asked of an interpretation, and events are
noted as they happen. The steps are written for any monad that offers these
services, so that they can do nothing else, and the same steps serve a plain
reading, a journal and a record of the questions asked.
-/

set_option autoImplicit false

namespace DiceLanguage

open Text

structure Interpretation where
  relation? : String → Option Relation
  value : String → Except Fault Int64

def Interpretation.standard : Interpretation := ⟨Relation.ofText?, Arithmetic.evaluate⟩

/-- What a reading asks for while it goes on. -/
structure Services (m : Type → Type) where
  relation? : String → m (Option Relation)
  value : String → m (Except Fault Int64)
  note : Event → m Unit

namespace Services

variable {m : Type → Type} [Monad m] (services : Services m)

def recover (diagnostic : Diagnostic) : m Unit := services.note (.recovered diagnostic)

/-- What a trimmed target stands for. The query mark has no value to ask for. -/
def target (text : String) : m (Except Fault Target) :=
  if text = Target.queryMark then
    return .ok .query
  else do
    return (← services.value text).map .value

def unknownRelation (wording : Wording) (position : Nat) : Diagnostic :=
  ⟨.unknownRelation, position, wording.relationSpan, wording.relation⟩

def badTarget (wording : Wording) (position : Nat) (fault : Fault) : Diagnostic :=
  ⟨.badTarget fault, position, wording.targetSpan, wording.target⟩

def readRelation (wording : Wording) (position : Nat) :
    m (Option Relation × List Diagnostic) := do
  match ← services.relation? wording.relation with
  | some relation => return (some relation, [])
  | none =>
      let unknown := unknownRelation wording position
      services.recover unknown
      return (none, [unknown])

def readTarget (wording : Wording) (position : Nat) :
    m (Except Fault Target × List Diagnostic) := do
  match ← services.target wording.trimmedTarget with
  | .ok target => return (.ok target, [])
  | .error fault =>
      let bad := badTarget wording position fault
      services.recover bad
      return (.error fault, [bad])

def check? : Option Relation → Except Fault Target → Option Check
  | some relation, .ok target => some ⟨relation, target⟩
  | _, _ => none

/-- Reads the check of a roll whose formula has `position` tokens. The target
is read whether or not the relation has a meaning. -/
def readCheck (wording : Wording) (position : Nat) : m (Option Check × List Diagnostic) :=
  if wording.hasCheck then do
    let (relation, unknown) ← services.readRelation wording position
    let (target, bad) ← services.readTarget wording position
    return (check? relation target, unknown ++ bad)
  else
    return (none, [])

def observer (tokens : List Token) : Reading.Observer m :=
  { secret := services.note .secretDiscarded
    gap := fun gap => services.recover (gap.diagnostic tokens) }

def readLeftover (reading : Reading) : m (List Diagnostic) :=
  match reading.leftover with
  | [] => return []
  | token :: rest => do
      let leftover := .ofLeftover reading.consumed token rest
      services.recover leftover
      return [leftover]

def readFormula (tokens : List Token) : m (Formula × List Diagnostic) := do
  let reading ← (services.observer tokens).readFormula tokens
  services.note (.consumed reading.consumed tokens.length)
  let leftover ← services.readLeftover reading
  return (reading.formula, reading.gapDiagnostics tokens ++ leftover)

/-- Reads a roll. Case is folded in the formula only, after the input has been
divided. -/
def read (foldsCase : Bool) (input : String) : m Outcome := do
  let given := Wording.ofInput input
  services.note (.divided given.formula given.relation given.target)
  let wording := given.folding foldsCase
  let tokens := Token.scan wording.formula
  services.note (.tokenized wording.formula (tokens.map fun token => token.text))
  let (formula, formulaDiagnostics) ← services.readFormula tokens
  let (check, checkDiagnostics) ← services.readCheck wording tokens.length
  return ⟨⟨formula, check⟩, formulaDiagnostics ++ checkDiagnostics⟩

end Services

end DiceLanguage
