import Descent.Regex.Matcher
import Descent.Regex.Weight

/-!
# Regular expressions

Compiling and searching. The match found starts as far left as any does; of those that start
there, it is the one that the order of alternatives and the greed of repetitions prefer.
-/

namespace Descent

structure Regex where
  tree : Regex.Tree
  program : Regex.Program

namespace Regex

def ofTree (tree : Tree) : Regex where
  tree := tree
  program := .ofTree tree

def compile (source : String) : Except Error Regex := do
  let tree ← Tree.ofSource source.toList
  if Weight.fits tree then return ofTree tree else throw .tooLarge

/-- A match: what it covers, and the ends of groups that it went through. -/
structure Match where
  whole : Span
  trail : Trail
deriving DecidableEq, Repr

namespace Match

/-- The last span of a group, if it took part in the match. Group zero is the whole match. -/
def group? (found : Match) (index : Nat) : Option Span :=
  if index = 0 then some found.whole
  else do
    let start ← found.trail.lookup (.opening index)
    let stop ← found.trail.lookup (.closing index)
    return { start, stop }

end Match

def matchAt? (regex : Regex) (place : Place) : Option Match :=
  let thread : Thread := { state := regex.program.start, trail := [] }
  (regex.program.run place [thread] none).map fun finish =>
    { whole := { start := place.index, stop := finish.stop }, trail := finish.trail }

def search? (regex : Regex) (index : Nat) (before : Option Char) : Text → Option Match
  | [] => regex.matchAt? { index, before, rest := [] }
  | c :: rest =>
    (regex.matchAt? { index, before, rest := c :: rest }).or
      (regex.search? (index + 1) (some c) rest)

/-- The first match in a text. One that is tied to the start of the text is looked for there
only. -/
def find? (regex : Regex) (text : Text) : Option Match :=
  if regex.tree.isTied .forward then
    regex.matchAt? { index := 0, before := none, rest := text }
  else regex.search? 0 none text

end Regex

end Descent
