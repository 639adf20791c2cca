import Descent.Failure
import Descent.GrammarError

/-!
# Outcomes

How running a parser once at some offset can end. A fault is no failure: nothing backtracks over
it, and the run it happens in has no answer.
-/

namespace Descent

inductive Fault where
  /-- A text was cut past its end, inside a character, or from back to front. -/
  | badOffset
  | noAlternative
  /-- A grammar that could not be constructed was asked for while parsing. -/
  | refused (error : GrammarError)
  | undefinedRule (name : String)
deriving DecidableEq, Repr

def Fault.message? : Fault → Option String
  | badOffset => none
  | noAlternative => some "alt needs at least one alternative"
  | refused error => some error.message
  | undefinedRule name => some s!"no rule is named {name}"

/-- A match says with `next` at which offset the consumed text ends. -/
inductive Outcome (α : Type) where
  | matched (value : α) (next : Nat)
  | failed (failure : Failure)
  | faulted (fault : Fault)
deriving DecidableEq, Repr

namespace Outcome

variable {α β : Type}

def map (f : α → β) : Outcome α → Outcome β
  | matched value next => matched (f value) next
  | failed failure => failed failure
  | faulted fault => faulted fault

def isMatched : Outcome α → Bool
  | matched _ _ => true
  | _ => false

@[simp]
theorem map_id (o : Outcome α) : o.map id = o := by
  cases o <;> rfl

theorem map_map {γ : Type} (g : β → γ) (f : α → β) (o : Outcome α) :
    (o.map f).map g = o.map (g ∘ f) := by
  cases o <;> rfl

end Outcome

end Descent
