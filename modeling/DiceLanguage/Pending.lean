import DiceLanguage.Operator

/-!
# Pending operands

While an expression is read from left to right, what stands to the left of the
operand being read waits for it: a sum with the sign that joins the next term,
a term with what joins its next factor, and the signs before the operand.
-/

set_option autoImplicit false

namespace DiceLanguage

/-- What waits for an operand. Only whether the number of minus signs before
the operand is odd is kept of them. -/
structure Pending (α : Type) where
  sum : Option (α × Sign)
  factor : Option (α × Scaling)
  negated : Bool
  deriving DecidableEq

namespace Pending

variable {α : Type}

def nothing : Pending α := ⟨none, none, false⟩

def signed (pending : Pending α) : Sign → Pending α
  | .plus => pending
  | .minus => { pending with negated := !pending.negated }

/-- After a sign between terms, a sum waits for its next term. -/
def ofSum (sum : α) (sign : Sign) : Pending α := ⟨some (sum, sign), none, false⟩

/-- After `*` or `/`, a term waits for its next factor. -/
def ofTerm (sum : Option (α × Sign)) (term : α) (scaling : Scaling) : Pending α :=
  ⟨sum, some (term, scaling), false⟩

end Pending

end DiceLanguage
