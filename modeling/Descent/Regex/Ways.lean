import Descent.Regex.Expr
import Descent.Regex.Place

/-!
# Ways to match

All ways in which an expression can go on from a place, in the order of preference: what the first
alternative can do comes before what the second one can, and more rounds of a repetition before
fewer if it prefers them. The match of an expression at a place is its first way from there, and the
match in a text is the one at the first place that has any.

A repetition without an upper bound would never end if its rounds took nothing. There only the first
round may take nothing, and no other one comes after it.
-/

namespace Descent.Regex

/-- Where a match has come to, and the groups that it has been in, the last one first. -/
structure Way where
  place : Place
  groups : List (Nat × Span)
deriving DecidableEq, Repr

namespace Way

/-- The way before it has taken anything. -/
def start (place : Place) : Way where
  place := place
  groups := []

def take (c : CharClass) (way : Way) : List Way :=
  match way.place.rest with
  | [] => []
  | d :: rest => if c.contains d then [{ way with place := way.place.advance d rest }] else []

/-- Notes a group that was opened at `start` and is closed here. -/
def close (index start : Nat) (way : Way) : Way :=
  { way with groups := (index, { start, stop := way.place.index }) :: way.groups }

/-- Whether more of the text has been taken than on an earlier way. -/
def isPast (way earlier : Way) : Bool :=
  way.place.rest.length < earlier.place.rest.length

section Rounds

variable (many : Bool) (round : Way → List Way)

/-- Goes on with more rounds or stays; `many` is the preference. -/
def more (further : List Way) (way : Way) : List Way :=
  if many then further ++ [way] else way :: further

def exactly : Nat → Way → List Way
  | 0, way => [way]
  | count + 1, way => (round way).flatMap (exactly count)

def atMost : Nat → Way → List Way
  | 0, way => [way]
  | count + 1, way => more many ((round way).flatMap (atMost count)) way

/-- Further rounds that all take something. No more of them are possible than characters are
left. -/
def further : Nat → Way → List Way
  | 0, way => [way]
  | left + 1, way =>
    let rounds := (round way).flatMap fun next =>
      if next.isPast way then further left next else []
    more many rounds way

def atLeastOnce (way : Way) : List Way :=
  (round way).flatMap fun next =>
    if next.isPast way then further many round next.place.rest.length next else [next]

end Rounds

def repeated (r : Repetition) (round : Way → List Way) (way : Way) : List Way :=
  match r.most, r.least with
  | some most, least => (exactly round least way).flatMap (atMost r.many round (most - least))
  | none, least + 1 => (exactly round least way).flatMap (atLeastOnce r.many round)
  | none, 0 => more r.many (atLeastOnce r.many round way) way

end Way

def Expr.ways : Expr → Way → List Way
  | empty, way => [way]
  | one c, way => way.take c
  | assertion a, way => if way.place.satisfies a then [way] else []
  | group body, way => body.ways way
  | capture index body, way => (body.ways way).map (.close index way.place.index)
  | concat a b, way => (a.ways way).flatMap b.ways
  | alternate a b, way => a.ways way ++ b.ways way
  | repetition r body, way => way.repeated r body.ways

/-- A match: what it covers, and the groups that it has been in, the last one first. -/
structure Occurrence where
  whole : Span
  groups : List (Nat × Span)
deriving DecidableEq, Repr

/-- What a group covered the last time that the match was in it. Group zero is the whole match. -/
def Occurrence.group? (found : Occurrence) (index : Nat) : Option Span :=
  if index = 0 then some found.whole else found.groups.lookup index

namespace Expr

/-- The match that starts at a place. -/
def matchAt? (e : Expr) (place : Place) : Option Occurrence :=
  (e.ways (.start place)).head?.map fun way =>
    { whole := { start := place.index, stop := way.place.index }, groups := way.groups }

def search? (e : Expr) (index : Nat) (before : Option Char) : Text → Option Occurrence
  | [] => e.matchAt? { index, before, rest := [] }
  | c :: rest =>
    (e.matchAt? { index, before, rest := c :: rest }).or (e.search? (index + 1) (some c) rest)

/-- The first match in a text. -/
def find? (e : Expr) (text : Text) : Option Occurrence :=
  e.search? 0 none text

end Expr

end Descent.Regex
