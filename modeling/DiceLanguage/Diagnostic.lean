import DiceLanguage.Arithmetic.Fault
import DiceLanguage.Text.Quoted
import DiceLanguage.Token

/-!
# Diagnostics

A diagnostic says what was wrong and where: the place among the tokens of the
formula, the span in the input, and the text that stands there.
-/

set_option autoImplicit false

namespace DiceLanguage

open Text

inductive Cause where
  /-- A number must stand here. It was taken to be zero. -/
  | missingNumber
  /-- A token, or the end, where one of some kinds must stand. -/
  | unexpected (found : Option TokenKind) (expected : List TokenKind)
  /-- Tokens were left over after the formula. -/
  | leftover (count : Nat)
  /-- The target has no value. -/
  | badTarget (fault : Fault)
  /-- The characters of comparison spell no relation. -/
  | unknownRelation
  deriving DecidableEq

namespace Cause

def alternatives : List TokenKind → String
  | [] => ""
  | [only] => only.name
  | [first, second] => first.name ++ " or " ++ second.name
  | first :: second :: rest => series first (second :: rest)
where
  /-- A series of three or more, with a comma after each but the last. -/
  series (kind : TokenKind) : List TokenKind → String
    | [] => "or " ++ kind.name
    | next :: rest => kind.name ++ ", " ++ series next rest

def message : Cause → String
  | .missingNumber => "expected a number"
  | .unexpected (some found) expected =>
      "unexpected token: found " ++ found.name ++ ", expected " ++ alternatives expected
  | .unexpected none expected =>
      "unexpected end of input, expected " ++ alternatives expected
  | .leftover count =>
      if count = 1 then "1 unparsed token at end of input"
      else Numeral.count count ++ " unparsed tokens at end of input"
  | .badTarget fault => "invalid comparison target: " ++ fault.message
  | .unknownRelation => "unknown comparison operator"

end Cause

structure Diagnostic where
  cause : Cause
  /-- How many tokens of the formula come before the place. -/
  position : Nat
  span : Span
  text : String
  deriving DecidableEq

def Diagnostic.message (diagnostic : Diagnostic) : String :=
  "error at token " ++ Numeral.count diagnostic.position ++
    " (" ++ Quoted.ofString diagnostic.text ++ "): " ++ diagnostic.cause.message

structure Report where
  first : Diagnostic
  others : List Diagnostic
  deriving DecidableEq

namespace Report

def ofList? : List Diagnostic → Option Report
  | [] => none
  | first :: others => some ⟨first, others⟩

def toList (report : Report) : List Diagnostic := report.first :: report.others

/-- The first diagnostic in full, and how many more there are. -/
def message (report : Report) : String :=
  report.first.message ++
    match report.others.length with
    | 0 => ""
    | 1 => " (and 1 more error)"
    | count => " (and " ++ Numeral.count count ++ " more errors)"

@[simp] theorem ofList?_toList (report : Report) : ofList? report.toList = some report := rfl

end Report

end DiceLanguage
