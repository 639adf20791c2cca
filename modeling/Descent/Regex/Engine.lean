import Descent.Regex
import Descent.Regex.Ways

/-!
# Engines for regular expressions

What is asked of an engine, and what can be relied on: that it accepts nothing but expressions, that
it finds the first match in a text, of those that start there the one that the expression prefers,
and that it tells the groups of this same match.
-/

namespace Descent.Regex

/-- The spans of the groups that took part in a match. Group zero is the whole match. -/
abbrev Captures := Nat → Option Span

structure Engine where
  Compiled : Type
  compile : String → Except Error Compiled
  find? : Compiled → Text → Option Span
  captures? : Compiled → Text → Option Captures

namespace Engine

/-- Runs the programs of expressions. -/
def programs : Engine where
  Compiled := Regex
  compile := Regex.compile
  find? regex text := (regex.find? text).map (·.whole)
  captures? regex text := (regex.find? text).map (·.group?)

structure IsLeftmostFirst (engine : Engine) : Prop where
  exists_expr : ∀ {source : String} {compiled : engine.Compiled},
    engine.compile source = .ok compiled → ∃ e, Expr.ofSource source.toList = .ok e
  find?_eq : ∀ {source : String} {compiled : engine.Compiled} {e : Expr},
    engine.compile source = .ok compiled → Expr.ofSource source.toList = .ok e →
      ∀ text, engine.find? compiled text = (e.find? text).map (·.whole)
  captures?_eq : ∀ {source : String} {compiled : engine.Compiled} {e : Expr},
    engine.compile source = .ok compiled → Expr.ofSource source.toList = .ok e →
      ∀ text, engine.captures? compiled text = (e.find? text).map (·.group?)

end Engine

end Descent.Regex
