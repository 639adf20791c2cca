import Descent.GrammarError
import Descent.Regex.Engine

/-!
# Patterns

A pattern is a regular expression that has to match at the very beginning of a text. Its source
must be an expression on its own, and stay one inside the group that ties it to the beginning; a
source that could close that group is refused by the first condition, one that swallows its end by
the second.
-/

namespace Descent

/-- An expression tied to the beginning, as an engine has compiled it. -/
structure Pattern where
  source : String
  find? : Text → Option Regex.Span
  captures? : Text → Option Regex.Captures

namespace Pattern

/-- The source in a group tied to the beginning of the text. -/
def anchored (source : String) : String :=
  "^(?:" ++ source ++ ")"

def ofCompiled (engine : Regex.Engine) (source : String) (compiled : engine.Compiled) :
    Pattern where
  source := source
  find? := engine.find? compiled
  captures? := engine.captures? compiled

def compileBy (engine : Regex.Engine) (source : String) : Except GrammarError Pattern := do
  let _ ← (engine.compile source).mapError .invalidPattern
  let compiled ← (engine.compile (anchored source)).mapError .invalidPattern
  return .ofCompiled engine source compiled

def compile (source : String) : Except GrammarError Pattern :=
  compileBy .programs source

/-- The text of the match at the beginning, and the number of characters that it takes. -/
def readWhole? (pattern : Pattern) (text : Text) : Option (String × Nat) := do
  let whole ← pattern.find? text
  return (String.ofList (whole.text text), whole.stop)

/-- The text of a group of the match at the beginning, and the number of characters that the whole
match takes. There is none if the group took no part in the match. -/
def readGroup? (pattern : Pattern) (group : Nat) (text : Text) : Option (String × Nat) := do
  let captures ← pattern.captures? text
  let whole ← captures 0
  let span ← captures group
  return (String.ofList (span.text text), whole.stop)

/-- Only for another group than the whole match an engine is asked for the groups. -/
def read? (pattern : Pattern) (group : Nat) (text : Text) : Option (String × Nat) :=
  if group = 0 then pattern.readWhole? text else pattern.readGroup? group text

end Pattern

end Descent
