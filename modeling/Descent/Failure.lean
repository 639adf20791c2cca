/-!
# Failures

A failure says at which byte offset a match failed and what was expected there. It is a local
signal: whoever receives it may try something else.
-/

namespace Descent

structure Failure where
  offset : Nat
  expected : String
deriving DecidableEq, Repr

end Descent
