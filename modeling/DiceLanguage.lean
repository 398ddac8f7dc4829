import DiceLanguage.Console
import DiceLanguage.Formula.Assembly
import DiceLanguage.Main
import DiceLanguage.Reader.Equations
import DiceLanguage.Text.Pieces.Append
import DiceLanguage.Proofs.Formula.Folding
import DiceLanguage.Proofs.Grammar
import DiceLanguage.Proofs.Reading.Accepting
import DiceLanguage.Proofs.Reading.Sentences
import DiceLanguage.Proofs.Strictness
import DiceLanguage.Proofs.Formula.Canonical
import DiceLanguage.Proofs.Formula.Value
import DiceLanguage.Proofs.Reading.Canonical
import DiceLanguage.Proofs.Reading.Value
import DiceLanguage.Proofs.Arithmetic.Checked
import DiceLanguage.Proofs.Arithmetic.Expression
import DiceLanguage.Proofs.Arithmetic.Evaluating
import DiceLanguage.Proofs.Arithmetic.Beginnings
import DiceLanguage.Proofs.Arithmetic.Exactness
import DiceLanguage.Proofs.Formula.Unfolding
import DiceLanguage.Proofs.Text.Pieces
import DiceLanguage.Proofs.Text.Numeral
import DiceLanguage.Proofs.Token
import DiceLanguage.Proofs.Arithmetic.Numeral
import DiceLanguage.Proofs.Formula.Spelling
import DiceLanguage.Proofs.Formula.Written
import DiceLanguage.Proofs.Rendering
import DiceLanguage.Proofs.Reading.Repair
import DiceLanguage.Proofs.Formula.Subformulas
import DiceLanguage.Proofs.Readability
import DiceLanguage.Proofs.Text.Split
import DiceLanguage.Proofs.Token.LongestMatch
import DiceLanguage.Proofs.Token.Splitting
import DiceLanguage.Proofs.Formula.Bounds
import DiceLanguage.Proofs.Token.Shared
import DiceLanguage.Proofs.Agreement
import DiceLanguage.Proofs.Reading.Places
import DiceLanguage.Proofs.Diagnosis.Order
import DiceLanguage.Proofs.Sides
import DiceLanguage.Proofs.Text.Tiles
import DiceLanguage.Proofs.Arithmetic.Faults
import DiceLanguage.Proofs.Token.Spans
import DiceLanguage.Proofs.Diagnosis.Location
import DiceLanguage.Proofs.Reading.Obstacle
import DiceLanguage.Proofs.Journal
import DiceLanguage.Proofs.Diagnosis.Message
import DiceLanguage.Proofs.Text.Utf8
import DiceLanguage.Proofs.Conversation
import DiceLanguage.Proofs.Formula.Built
import DiceLanguage.Proofs.Formula.Joints
import DiceLanguage.Proofs.Formula.Unambiguity
import DiceLanguage.Proofs.Unambiguity
import DiceLanguage.Proofs.Text.Boundary
import DiceLanguage.Proofs.Arithmetic.Places
import DiceLanguage.Proofs.Arithmetic.Obstacle
import DiceLanguage.Proofs.Reading.Signs
import DiceLanguage.Proofs.Formula.Literals
import DiceLanguage.Proofs.Reading.Literals
import DiceLanguage.Proofs.Assembly
import DiceLanguage.Proofs.Casing
import DiceLanguage.Proofs.Reading.Shift
import DiceLanguage.Proofs.Secrecy
import DiceLanguage.Proofs.Formula.Legible
import DiceLanguage.Proofs.Target
import DiceLanguage.Proofs.Legibility
import DiceLanguage.Proofs.Arithmetic.Quotient
import DiceLanguage.Proofs.Text.Bytes
import DiceLanguage.Proofs.Text.Coverage
import DiceLanguage.Proofs.Token.Partition
