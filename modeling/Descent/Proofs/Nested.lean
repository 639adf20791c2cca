import Descent.Proofs.Cells
import Descent.Proofs.Composed

/-!
# Nested parentheses

The smallest recursive grammar: a nest is empty, or a nest in parentheses, and its value is its
depth.
-/

namespace Descent

abbrev Nested : Signature where
  Rule := Unit
  Result _ := Nat
  decEq := inferInstance

namespace Nested

def inParentheses : Parser Nested Nat :=
  (((Parser.literal "(").andThen (.lazy 0 ())).skip (.literal ")")).map fun depth : Nat => depth + 1

def nest : Parser Nested Nat :=
  inParentheses.orElse ((Parser.literal "").result (0 : Nat))

def grammar : Grammar Nested where
  body _ := nest
  foreign _ := []

/-- Says that a digit is missing two bytes further on. -/
def digitAhead : Act Nat := fun _ _ offset =>
  ([⟨offset + 2, "digit"⟩], .failed ⟨offset + 2, "digit"⟩)

def ahead : Parser Nested Nat :=
  ((Parser.literal "(").andThen (.custom digitAhead)).orElse (.lazy 0 ())

def shallow : Parser Nested Nat :=
  (Parser.lazy 0 ()).bind fun depth : Nat =>
    if depth ≤ 1 then .always depth else .fault .noAlternative

def probedNest : Parser Nested Nat :=
  .probe "nest" (.lazy 0 ())

theorem isPlain_inParentheses : inParentheses.IsPlain := by
  simp [inParentheses, Parser.andThen, Parser.Composed]

theorem isPlain_nest : nest.IsPlain := by
  refine ⟨isPlain_inParentheses, ?_⟩
  simp

theorem isPlain_grammar : grammar.IsPlain :=
  fun _ => isPlain_nest

theorem faithful_put_nest : (Cells.empty.put 0 () nest .empty).Faithful grammar :=
  ⟨rfl, trivial, trivial⟩

end Nested

end Descent
