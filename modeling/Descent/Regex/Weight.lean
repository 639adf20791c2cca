import Descent.Regex.Tree
import Descent.Regex.Weight.Sharing

/-!
# Weights of regular expressions

How much memory an automaton over bytes takes that accepts the UTF-8 forms of what an expression
matches. Two automata are weighed, one that reads a text forward and finds groups, and one that
reads it backward; both have to be light enough. A rough weight is never less than the exact one
and settles most expressions.
-/

namespace Descent.Regex

namespace Weight

/-- Heavier expressions are refused. -/
def limit : Nat := 10 * 1024 * 1024

inductive Precision where
  | rough
  | exact
deriving DecidableEq, Repr

/-- The states of a class. Roughly, no two byte sequences share a state. -/
def ofClass (precision : Precision) (direction : Direction) (c : CharClass) (tally : Tally) :
    Tally :=
  if c.isAscii then (tally.add Tally.plain).add (Tally.branching c.ranges.length)
  else
    match precision, direction with
    | .rough, _ =>
      let bytes := c.encoding.foldl (fun bytes sequence => bytes + sequence.length) 0
      (tally.addPlain 2).add (40 * bytes)
    | .exact, .forward => Sharing.forward c.encoding tally
    | .exact, .backward => Sharing.backward c.encoding tally

/-- The bytes of a literal in the order in which they are read. -/
def bytesOf (direction : Direction) (s : List Char) : List UInt8 :=
  let bytes := s.flatMap String.utf8EncodeChar
  match direction with
  | .forward => bytes
  | .backward => bytes.reverse

/-- Cuts a list of words at the empty words. Empty words at the start make one cut only. -/
def cutAtEmpty (words : List (List UInt8)) : List (List (List UInt8)) :=
  let (current, finished) :=
    (words.dropWhile (·.isEmpty)).foldl
      (fun (current, finished) word =>
        if word.isEmpty then ([], current.reverse :: finished) else (word :: current, finished))
      (([] : List (List UInt8)), ([] : List (List (List UInt8))))
  let chunks := (current.reverse :: finished).reverse
  if words.head?.any (·.isEmpty) then [] :: chunks else chunks

/-- The states that tell words apart byte by byte, preferring earlier words. A word that ends where
others go on separates those before it from those after it. -/
def ofWords : Nat → List (List UInt8) → Tally → Tally
  | 0, _, tally => tally
  | steps + 1, words, tally =>
    let chunks := cutAtEmpty words
    let filled := chunks.filter (!·.isEmpty)
    if filled.isEmpty then tally
    else
      filled.foldl
        (fun tally chunk =>
          let firsts := (chunk.filterMap List.head?).eraseDups
          firsts.foldl
            (fun tally first =>
              ofWords steps
                (chunk.filterMap fun word =>
                  match word with
                  | [] => none
                  | b :: rest => if b = first then some rest else none)
                tally)
            (tally.add
              (if firsts.length = 1 then Tally.plain else Tally.branching firsts.length)))
        (tally.add (Tally.choice (filled.length + (chunks.length - 1))))

def literals? (options : List Tree) : Option (List (List Char)) :=
  options.mapM fun t =>
    match t with
    | .literal s => some s
    | _ => none

def ofLiterals (direction : Direction) (literals : List (List Char)) (tally : Tally) : Tally :=
  let words := literals.map (bytesOf direction)
  ofWords (words.foldl (fun most word => max most word.length) 0 + 1) words
    (tally.add Tally.plain)

/-- So many copies of a body, or as many as it takes to exceed the limit. -/
def copies (body : Tally → Tally) : Nat → Tally → Tally
  | 0, tally => tally
  | count + 1, tally =>
    if limit < tally.weight then tally else copies body count (body tally)

def ofRepetition (r : Repetition) (consumes : Bool) (body : Tally → Tally) (tally : Tally) :
    Tally :=
  let choose (tally : Tally) := tally.add (Tally.choice 2)
  match r.least, r.most with
  | 0, none =>
    if consumes then body (choose tally)
    else (choose (choose (body tally))).add Tally.plain
  | least, none => choose (copies body least tally)
  | 0, some 1 => (body (choose tally)).add Tally.plain
  | least, some most =>
    let required := if least = 0 then tally.add Tally.plain else copies body least tally
    if least = most then required
    else copies (fun tally => body (choose tally)) (most - least) (required.add Tally.plain)

/-- Where in an alternation an option stands. The state that chooses between the options is made
after the second one of them. -/
inductive Rank where
  | first
  | second (options : Nat)
  | later
deriving DecidableEq, Repr

/-- What is made after an option. -/
def Rank.close (rank : Rank) (tally : Tally) : Tally :=
  match rank with
  | second options => (tally.add (Tally.choice options)).add Tally.plain
  | _ => tally

/-- The states of a tree, or of the options of an alternation from one on. Literals that are
alternatives share the states of the bytes that they start with. -/
def ofPart (precision : Precision) (direction : Direction) : Rank → Tree → Tally → Tally
  | rank, .empty, tally => rank.close (tally.add Tally.plain)
  | rank, .literal s, tally => rank.close (tally.addPlain (bytesOf direction s).length)
  | rank, .one c, tally => rank.close (ofClass precision direction c tally)
  | rank, .assertion _, tally => rank.close (tally.add Tally.plain)
  | rank, .capture _ body, tally =>
    match direction with
    | .forward =>
      rank.close
        ((ofPart precision .forward .first body (tally.add Tally.plain)).add Tally.plain)
    | .backward => rank.close (ofPart precision .backward .first body tally)
  | rank, .concat a b, tally =>
    match direction with
    | .forward =>
      rank.close
        (ofPart precision .forward .first b (ofPart precision .forward .first a tally))
    | .backward =>
      rank.close
        (ofPart precision .backward .first a (ofPart precision .backward .first b tally))
  | rank, .alternate a b, tally =>
    let afterFirst := ofPart precision direction .first a tally
    match rank with
    | .first =>
      match literals? (a :: b.options) with
      | some literals => ofLiterals direction literals tally
      | none => ofPart precision direction (.second (1 + b.options.length)) b afterFirst
    | rank => ofPart precision direction .later b (rank.close afterFirst)
  | rank, .repetition r body, tally =>
    rank.close
      (ofRepetition r body.consumes (ofPart precision direction .first body) tally)

/-- The states that pass over what stands before a match. For a match that is tied to the text there
is nothing to pass. -/
def passing (isTied : Bool) : Tally :=
  if isTied then Tally.empty.add Tally.plain
  else ((Tally.empty.add (Tally.choice 2)).add Tally.plain).add (Tally.branching 1)

/-- The weight of an automaton that searches a text: the states of the expression and one that
accepts, and those that mark the whole match when groups are found. -/
def ofTree (precision : Precision) (direction : Direction) (tree : Tree) : Nat :=
  let start := passing (tree.isTied direction)
  match direction with
  | .forward =>
    ((ofPart precision .forward .first tree (start.add Tally.plain)).addPlain 2).weight
  | .backward => ((ofPart precision .backward .first tree start).add Tally.plain).weight

def fitsBy (precision : Precision) (tree : Tree) : Bool :=
  ofTree precision .backward tree ≤ limit && ofTree precision .forward tree ≤ limit

/-- Whether both automata of a tree are light enough. -/
def fits (tree : Tree) : Bool :=
  fitsBy .rough tree || fitsBy .exact tree

end Weight

end Descent.Regex
