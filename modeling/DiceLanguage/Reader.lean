import DiceLanguage.Reader.Services

/-!
# Reading rolls

Reading a roll never fails. A reader has its options and an interpretation,
which a caller may replace; what happened during a reading, and what was asked
of the interpretation, can be looked up afterwards.
-/

set_option autoImplicit false

namespace DiceLanguage

inductive Question where
  | relation (text : String)
  | value (text : String)
  deriving DecidableEq

namespace Interpretation

def plain (interpretation : Interpretation) : Services Id :=
  { relation? := fun text => return interpretation.relation? text
    value := fun text => return interpretation.value text
    note := fun _ => return () }

/-- Keeps the events, latest first. -/
def journaled (interpretation : Interpretation) : Services (StateM (List Event)) :=
  { relation? := fun text => return interpretation.relation? text
    value := fun text => return interpretation.value text
    note := fun event => modify (event :: ·) }

/-- Keeps the questions, latest first. -/
def questioned (interpretation : Interpretation) : Services (StateM (List Question)) :=
  { relation? := fun text => do
      modify (.relation text :: ·)
      return interpretation.relation? text
    value := fun text => do
      modify (.value text :: ·)
      return interpretation.value text
    note := fun _ => return () }

end Interpretation

structure Reader where
  options : Options
  interpretation : Interpretation

namespace Reader

def standard (options : Options) : Reader := ⟨options, .standard⟩

/-- Reads a roll, whatever the mode. -/
def read (reader : Reader) (input : String) : Outcome :=
  Id.run (reader.interpretation.plain.read reader.options.foldsCase input)

def run (reader : Reader) (input : String) : Except Report Outcome :=
  (reader.read input).under reader.options.mode

/-- Reads a roll and accepts no diagnostic, whatever the mode. -/
def readStrictly (reader : Reader) (input : String) : Except Report Roll :=
  (reader.read input).strictly

def journal (reader : Reader) (input : String) : List Event :=
  (Id.run ((reader.interpretation.journaled.read reader.options.foldsCase input).run [])).2.reverse

def questions (reader : Reader) (input : String) : List Question :=
  (Id.run ((reader.interpretation.questioned.read reader.options.foldsCase input).run [])).2.reverse

end Reader

end DiceLanguage
