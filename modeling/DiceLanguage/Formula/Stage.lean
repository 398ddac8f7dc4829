import DiceLanguage.Formula.Term
import DiceLanguage.Token

/-!
# Stages of reading a formula

The tokens read so far either make a formula, which some tokens may extend, or
await a number. No stage depends on the tokens to come.
-/

set_option autoImplicit false

namespace DiceLanguage.Reading

/-- A place where a number must stand. -/
inductive Slot where
  /-- A number, or the dice of a roll; signs may come before it. -/
  | operand (pending : Pending Formula)
  | sides (pending : Pending Formula) (count : Int64)
  | critical (pending : Pending Formula) (count size : Int64)
  deriving DecidableEq

/-- Tokens that make a formula on their own. -/
inductive Whole where
  | plain (pending : Pending Formula) (term : Term)
  /-- A rounding has just been read, so the product that it ends is closed. -/
  | rounded (sum : Option (Formula × Sign)) (product : Formula)
  deriving DecidableEq

inductive Stage where
  | awaiting (slot : Slot)
  | whole (whole : Whole)
  deriving DecidableEq

def Slot.fill (value : Int64) : Slot → Whole
  | .operand pending => .plain pending (.number value)
  | .sides pending count => .plain pending (.dice count value)
  | .critical pending count size => .plain pending (.criticalDice count size value)

/-- The slot after a sign. Signs stand before operands only. -/
def Slot.signed? (sign : Sign) : Slot → Option Slot
  | .operand pending => some (.operand (pending.signed sign))
  | .sides .. | .critical .. => none

namespace Whole

/-- The sum that the last product joins. -/
def sum : Whole → Option (Formula × Sign)
  | .plain pending _ => pending.sum
  | .rounded sum _ => sum

def product : Whole → Formula
  | .plain pending term => pending.product term none
  | .rounded _ product => product

def formula (whole : Whole) : Formula := Formula.ofLastProduct whole.sum whole.product

/-- After `D`, a number of dice awaits their sides. -/
def sides? : Whole → Option Slot
  | .plain pending (.number times) => some (.sides pending times)
  | _ => none

def critical? : Whole → Option Slot
  | .plain pending (.dice times sides) => some (.critical pending times sides)
  | _ => none

/-- A rounding is read after a divisor only. -/
def rounded? (rounding : Rounding) : Whole → Option Whole
  | .plain pending term =>
      match pending.factor with
      | some (_, .over) => some (.rounded pending.sum (pending.product term (some rounding)))
      | _ => none
  | .rounded .. => none

def extend? (whole : Whole) : TokenKind → Option Stage
  | .plus => some (.awaiting (.operand (.ofSum whole.formula .plus)))
  | .minus => some (.awaiting (.operand (.ofSum whole.formula .minus)))
  | .star => some (.awaiting (.operand (.ofTerm whole.sum whole.product .times)))
  | .slash => some (.awaiting (.operand (.ofTerm whole.sum whole.product .over)))
  | .die => whole.sides?.map .awaiting
  | .critical => whole.critical?.map .awaiting
  | .roundUp => (whole.rounded? .up).map .whole
  | .roundNearest => (whole.rounded? .nearest).map .whole
  | .number | .secret | .word | .unknown => none

end Whole

end DiceLanguage.Reading
