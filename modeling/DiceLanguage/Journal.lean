import DiceLanguage.Diagnostic

/-!
# The journal of a reading

What happens while a roll is read, in the order in which it happens.
-/

set_option autoImplicit false

namespace DiceLanguage

open Text

inductive Level where
  | debug
  | trace
  deriving DecidableEq

def Level.name : Level → String
  | .debug => "DEBUG"
  | .trace => "TRACE"

inductive Event where
  /-- The input was divided into the texts of formula, relation and target. -/
  | divided (formula relation target : String)
  | tokenized (text : String) (tokens : List String)
  | secretDiscarded
  /-- Something was wrong and the reading goes on. -/
  | recovered (diagnostic : Diagnostic)
  /-- The formula has been read. -/
  | consumed (count total : Nat)
  deriving DecidableEq

namespace Event

def level : Event → Level
  | .divided .. | .recovered _ | .consumed .. => .debug
  | .tokenized .. | .secretDiscarded => .trace

def message : Event → String
  | .divided formula relation target =>
      "split into " ++ Quoted.ofString formula ++ " " ++ Quoted.ofString relation ++ " " ++
        Quoted.ofString target
  | .tokenized text tokens =>
      "tokenized " ++ Quoted.ofString text ++ " into " ++ Quoted.ofList tokens
  | .secretDiscarded => "discarding secret roll marker"
  | .recovered diagnostic => "recovering from " ++ diagnostic.message
  | .consumed count total =>
      "parsed " ++ Numeral.count count ++ " of " ++ Numeral.count total ++ " tokens"

end Event

end DiceLanguage
