import Descent.Regex.Expr
import Descent.Regex.Token.Reading

/-!
# Reading expressions

An expression, read off its tokens with a stack of the groups that are still open. Flags set by a
directive last to the end of the group they stand in.

The spelling of an expression has a depth, which is limited. Repetitions, groups, concatenations
and alternations are one level deeper than the deepest of what they are made of.
-/

namespace Descent.Regex

/-- A part of an expression, and the depth of its spelling. -/
structure Piece where
  expr : Expr
  depth : Nat
deriving DecidableEq, Repr

namespace Piece

def leaf (expr : Expr) : Piece where
  expr := expr
  depth := 0

def repeated (r : Repetition) (body : Piece) : Piece where
  expr := .repetition r body.expr
  depth := body.depth + 1

def group (capture : Option Nat) (body : Piece) : Piece where
  expr :=
    match capture with
    | none => .group body.expr
    | some index => .capture index body.expr
  depth := body.depth + 1

/-- Two or more parts side by side make up a level of their own. -/
def depthOf (count : Nat) (pieces : List Piece) : Nat :=
  let deepest := pieces.foldl (fun depth piece => max depth piece.depth) 0
  if count ≤ 1 then deepest else deepest + 1

end Piece

/-- A group that is not closed yet. Its finished alternatives and the items of the current one
stand last first; a directive is an item without a meaning, which cannot be repeated. -/
structure Group where
  capture : Option Nat
  flagsAfter : Flags
  alternatives : List Piece
  items : List (Option Piece)
deriving DecidableEq, Repr

namespace Group

def start (capture : Option Nat) (flagsAfter : Flags) : Group where
  capture := capture
  flagsAfter := flagsAfter
  alternatives := []
  items := []

def add (group : Group) (item : Option Piece) : Group :=
  { group with items := item :: group.items }

def alternative (group : Group) : Piece :=
  let pieces := group.items.reverse.filterMap id
  { expr := .ofItems (pieces.map (·.expr))
    depth := Piece.depthOf group.items.length pieces }

def bar (group : Group) : Group :=
  { group with alternatives := group.alternative :: group.alternatives, items := [] }

def body (group : Group) : Piece :=
  match group.alternatives with
  | [] => group.alternative
  | alternatives =>
    let pieces := (group.alternative :: alternatives).reverse
    { expr := .ofOptions (pieces.map (·.expr))
      depth := Piece.depthOf pieces.length pieces }

def close (group : Group) : Piece :=
  group.body.group group.capture

def repeatLast (group : Group) (r : Repetition) : Except Error Group :=
  match group.items with
  | some item :: items => .ok { group with items := some (item.repeated r) :: items }
  | _ => .error .nothingToRepeat

end Group

/-- What has been read of an expression: the innermost open group, the groups around it, and the
capture groups opened so far. -/
structure Outline where
  flags : Flags
  group : Group
  outer : List Group
  captures : Nat
  names : List String
deriving DecidableEq, Repr

namespace Outline

def start : Outline where
  flags := .initial
  group := .start none .initial
  outer := []
  captures := 0
  names := []

/-- The deepest nesting that an expression can have. -/
def maxDepth : Nat := 250

def openGroup (outline : Outline) (capture : Option Nat) (flags : Flags) : Outline :=
  { outline with
    flags
    group := .start capture outline.flags
    outer := outline.group :: outline.outer }

def add (outline : Outline) (item : Option Piece) : Outline :=
  { outline with group := outline.group.add item }

def push (outline : Outline) : Token → Except Error Outline
  | .one c => .ok (outline.add (some (.leaf (.one c))))
  | .bracket c depth => .ok (outline.add (some { expr := .one c, depth }))
  | .assertion a => .ok (outline.add (some (.leaf (.assertion a))))
  | .blank => .ok outline
  | .bar => .ok { outline with group := outline.group.bar }
  | .repetition r => do return { outline with group := ← outline.group.repeatLast r }
  | .directive changes =>
    .ok { outline.add none with flags := outline.flags.change changes }
  | .openPlain changes => .ok (outline.openGroup none (outline.flags.change changes))
  | .openCapture name =>
    match name with
    | some name =>
      if outline.names.contains name then .error (.duplicateGroupName name)
      else
        .ok { outline.openGroup (some (outline.captures + 1)) outline.flags with
          captures := outline.captures + 1
          names := name :: outline.names }
    | none =>
      .ok { outline.openGroup (some (outline.captures + 1)) outline.flags with
        captures := outline.captures + 1 }
  | .closeGroup =>
    match outline.outer with
    | [] => .error .unopenedGroup
    | parent :: outer =>
      .ok { outline with
        flags := outline.group.flagsAfter
        group := parent.add (some outline.group.close)
        outer }

/-- The expression that has been read to its end. -/
def finish (outline : Outline) : Except Error Expr :=
  if outline.outer.isEmpty then
    let piece := outline.group.body
    if piece.depth ≤ maxDepth then .ok piece.expr else .error .tooDeep
  else .error .unclosedGroup

def read (outline : Outline) : List Char → Except Error Outline
  | [] => .ok outline
  | c :: cs =>
    match _h : Token.next outline.flags c cs with
    | .error e => .error e
    | .ok (token, rest) =>
      match outline.push token with
      | .error e => .error e
      | .ok outline => outline.read rest
termination_by cs => cs.length
decreasing_by exact Nat.lt_succ_of_le (Token.length_next_le _h)

end Outline

def Expr.ofSource (source : List Char) : Except Error Expr := do
  (← Outline.start.read source).finish

end Descent.Regex
