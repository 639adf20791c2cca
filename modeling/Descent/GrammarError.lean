import Descent.Regex.Error

/-!
# Grammar errors

Mistakes in the construction of a grammar. No input being parsed causes them.
-/

namespace Descent

inductive GrammarError where
  | invalidPattern (cause : Regex.Error)
  | invertedRepetition (least most : Nat)
deriving DecidableEq, Repr

namespace GrammarError

def message : GrammarError → String
  | invalidPattern _ => "pattern could not be compiled"
  | invertedRepetition least most =>
    s!"repetition needs at least {least} but at most {most} matches"

/-- What made the construction fail, where that is an error of its own. -/
def source? : GrammarError → Option Regex.Error
  | invalidPattern cause => some cause
  | invertedRepetition _ _ => none

end GrammarError

end Descent
