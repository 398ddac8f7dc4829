/-!
# Outlines

An outline shows nested data over several lines. A compound value opens on one
line, gives each of its parts four spaces further in with a comma after it,
and closes on a line of its own.
-/

set_option autoImplicit false

namespace DiceLanguage.Text

abbrev Outline := List String

namespace Outline

def leaf (text : String) : Outline := [text]

def comma : Outline → Outline
  | [] => []
  | [last] => [last ++ ","]
  | line :: rest => line :: comma rest

def label (name : String) : Outline → Outline
  | [] => []
  | first :: rest => (name ++ first) :: rest

/-- A part of a compound value: indented, with a comma after it. -/
def part (outline : Outline) : Outline := outline.comma.map ("    " ++ ·)

def application (name : String) (arguments : List Outline) : Outline :=
  (name ++ "(") :: arguments.flatMap part ++ [")"]

def record (name : String) (fields : List (String × Outline)) : Outline :=
  (name ++ " \x7b") :: fields.flatMap (fun field => part (label (field.1 ++ ": ") field.2)) ++
    ["\x7d"]

def optional : Option Outline → Outline
  | none => leaf "None"
  | some outline => application "Some" [outline]

def render (outline : Outline) : String := "\n".intercalate outline

end Outline

end DiceLanguage.Text
