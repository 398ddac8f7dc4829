import DiceLanguage.Arithmetic.Checked
import DiceLanguage.Arithmetic.Lexeme
import DiceLanguage.Pending

/-!
# Evaluating arithmetic

Lexemes are evaluated while they are read, from left to right:

    Sum     := Product ((+ | -) Product)*
    Product := Signed ((* | /) Signed)*
    Signed  := (+ | -)* (Literal | "(" Sum ")")

Each open parenthesis keeps what was pending around it, so the open groups are
a list and their number is its length. A product is computed as soon as its
right factor is complete, and a sum as soon as its last term is, before the
lexeme that ends the term is judged. The first fault ends the evaluation.
-/

set_option autoImplicit false

namespace DiceLanguage.Arithmetic

def nestingLimit : Nat := 256

/-- An operand with the signs before it. An even number of minus signs leaves
the operand alone, so at most one negation is computed. -/
def signed (pending : Pending Int64) (operand : Int64) : Except Fault Int64 :=
  if pending.negated then negate operand else .ok operand

def term (pending : Pending Int64) (factor : Int64) : Except Fault Int64 :=
  match pending.factor with
  | none => .ok factor
  | some (left, .times) => multiply left factor
  | some (dividend, .over) => divide dividend factor

def total (sum : Option (Int64 × Sign)) (term : Int64) : Except Fault Int64 :=
  match sum with
  | none => .ok term
  | some (left, .plus) => add left term
  | some (left, .minus) => subtract left term

/-- What the lexemes read so far amount to. The groups around are held
innermost first. -/
inductive Stage where
  /-- An operand must come next. -/
  | awaiting (pending : Pending Int64) (around : List (Pending Int64))
  /-- A term has been read that may go on. -/
  | holding (sum : Option (Int64 × Sign)) (term : Int64) (around : List (Pending Int64))
  deriving DecidableEq

def Lexeme.unexpected (lexeme : Lexeme) : Fault := .unexpected lexeme.position lexeme.text

namespace Stage

def initial : Stage := .awaiting .nothing []

def complete (pending : Pending Int64) (around : List (Pending Int64)) (operand : Int64) :
    Except Fault Stage := do
  let factor ← signed pending operand
  let value ← term pending factor
  return .holding pending.sum value around

def takeOperand (pending : Pending Int64) (around : List (Pending Int64)) (lexeme : Lexeme) :
    Except Fault Stage :=
  match lexeme.symbol with
  | .plus => .ok (.awaiting (pending.signed .plus) around)
  | .minus => .ok (.awaiting (pending.signed .minus) around)
  | .literal value =>
      match Text.Numeral.ofNat? value with
      | some operand => complete pending around operand
      | none => .error .overflow
  | .opening =>
      if around.length = nestingLimit then .error (.tooDeep nestingLimit)
      else .ok (.awaiting .nothing (pending :: around))
  | .star | .slash | .closing | .unknown => .error lexeme.unexpected

def takeOperator (sum : Option (Int64 × Sign)) (value : Int64) (around : List (Pending Int64))
    (lexeme : Lexeme) : Except Fault Stage :=
  match lexeme.symbol with
  | .star => .ok (.awaiting (.ofTerm sum value .times) around)
  | .slash => .ok (.awaiting (.ofTerm sum value .over) around)
  | .plus => do return .awaiting (.ofSum (← total sum value) .plus) around
  | .minus => do return .awaiting (.ofSum (← total sum value) .minus) around
  | .closing => do
      let result ← total sum value
      match around with
      | [] => .error lexeme.unexpected
      | pending :: outer => complete pending outer result
  | .literal _ | .opening | .unknown => do
      let _ ← total sum value
      .error lexeme.unexpected

def take (stage : Stage) (lexeme : Lexeme) : Except Fault Stage :=
  match stage with
  | .awaiting pending around => takeOperand pending around lexeme
  | .holding sum value around => takeOperator sum value around lexeme

def finish : Stage → Except Fault Int64
  | .awaiting .. => .error .unfinished
  | .holding sum value around => do
      let result ← total sum value
      match around with
      | [] => .ok result
      | _ :: _ => .error .unfinished

end Stage

def evaluateLexemes (lexemes : List Lexeme) : Except Fault Int64 := do
  let stage ← lexemes.foldlM Stage.take Stage.initial
  stage.finish

def evaluate (text : String) : Except Fault Int64 := evaluateLexemes (Lexeme.scan text)

end DiceLanguage.Arithmetic
