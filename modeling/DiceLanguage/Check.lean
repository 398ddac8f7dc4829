import DiceLanguage.Text.Numeral

/-!
# Checks

A roll may be checked against a target: a relation and what stands on its
other side, either a word or a query that is answered later.
-/

set_option autoImplicit false

namespace DiceLanguage

open Text

inductive Relation where
  | less
  | greater
  | lessOrEqual
  | greaterOrEqual
  | equal
  | unequal
  deriving DecidableEq

namespace Relation

def symbol : Relation → String
  | .less => "<"
  | .greater => ">"
  | .lessOrEqual => "<="
  | .greaterOrEqual => ">="
  | .equal => "="
  | .unequal => "<>"

/-- The relation that a text spells. Where a spelling has two characters that
may be exchanged, both orders are read. -/
def ofText? : String → Option Relation
  | "<" => some .less
  | ">" => some .greater
  | "<=" | "=<" => some .lessOrEqual
  | ">=" | "=>" => some .greaterOrEqual
  | "=" | "==" => some .equal
  | "<>" => some .unequal
  | _ => none

/-- What is written for a relation is read as it. -/
theorem ofText?_symbol (relation : Relation) : ofText? relation.symbol = some relation := by
  cases relation <;> decide

end Relation

inductive Target where
  | value (word : Int64)
  /-- The target is asked for when the roll is made. -/
  | query
  deriving DecidableEq

namespace Target

/-- What stands in place of a target that is asked for. -/
def queryMark : String := "?"

def render : Target → String
  | .value word => Numeral.render word
  | .query => queryMark

end Target

structure Check where
  relation : Relation
  target : Target
  deriving DecidableEq

def Check.render (check : Check) : String := check.relation.symbol ++ check.target.render

end DiceLanguage
