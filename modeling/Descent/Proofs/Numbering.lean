import Descent.Proofs.Anchoring

/-!
# Numbers of groups

The capture groups of an expression are numbered by the parentheses that open them: the first such
parenthesis in the source opens group one, and no number is left out. Escaped and bracketed
parentheses open none, nor do those of groups that capture nothing.
-/

namespace Descent.Regex

namespace Expr

theorem groups_ofOptions (es : List Expr) : (ofOptions es).groups = es.flatMap groups := by
  induction es with
  | nil => rfl
  | cons e es ih =>
    cases es with
    | nil => simp [ofOptions]
    | cons e' es => simp only [ofOptions, groups, ih, List.flatMap_cons]

end Expr

namespace Group

variable {group repeated : Group}

/-- The groups opened so far, this one among them. -/
def opened (group : Group) : List Nat :=
  group.close.expr.groups

end Group

namespace Outline

variable {outline pushed final : Outline} {token : Token}

/-- The groups opened so far, the outermost ones first. -/
def opened (outline : Outline) : List Nat :=
  outline.outer.reverse.flatMap Group.opened ++ outline.group.opened

end Outline

end Descent.Regex
