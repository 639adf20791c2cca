/-!
# Diagnostics

An error as a reader meets it: a message, and possibly the error that caused it.
-/

namespace Descent

inductive Diagnostic where
  | plain (message : String)
  | wrapping (message : String) (source : Diagnostic)
deriving DecidableEq, Repr

namespace Diagnostic

def message : Diagnostic → String
  | plain message => message
  | wrapping message _ => message

def source? : Diagnostic → Option Diagnostic
  | plain _ => none
  | wrapping _ source => some source

/-- The message, then that of the source, and so on to the first cause. -/
def chain : Diagnostic → List String
  | plain message => [message]
  | wrapping message source => message :: source.chain

theorem chain_eq (d : Diagnostic) :
    d.chain = d.message :: (d.source?.map chain).getD [] := by
  cases d <;> rfl

end Diagnostic

end Descent
