import Descent.Blueprint.Value

/-!
# Blueprints

Grammars written down as data: nothing in a blueprint is a function, so it can be read from a file.
Rules are named by strings, and all values are of one type.
-/

namespace Descent

mutual

inductive Blueprint where
  | literal (text : String)
  | pattern (source : String) (group : Nat)
  | anyChar
  | endOfInput
  | always (value : Value)
  | never (expected : String)
  | remainder
  | currentOffset
  | letter
  | letters
  | digit
  | digits
  | whiteSpace
  | optWhiteSpace
  | map (p : Blueprint) (f : Conversion)
  | bind (p : Blueprint) (next : Continuation)
  | andThen (p q : Blueprint)
  | skip (p q : Blueprint)
  | orElse (p q : Blueprint)
  | both (p q : Blueprint)
  | result (p : Blueprint) (value : Value)
  | sequence (ps : List Blueprint)
  | alt (ps : List Blueprint)
  | many (p : Blueprint)
  /-- Inverted bounds are a fault. -/
  | times (p : Blueprint) (least : Nat) (most : Option Nat)
  /-- Inverted bounds are an error. -/
  | tryTimes (p : Blueprint) (least : Nat) (most : Option Nat)
  | atLeast (p : Blueprint) (least : Nat)
  | atMost (p : Blueprint) (most : Nat)
  | sepBy (p separator : Blueprint)
  | sepBy1 (p separator : Blueprint)
  | mark (p : Blueprint)
  /-- A node for a rule, different from every other node. -/
  | rule (name : String)
  /-- Reports a failure so many bytes ahead. -/
  | failAhead (distance : Nat) (expected : String)
  /-- Matches so many bytes, whatever they are and whether or not they are there. -/
  | jump (distance : Nat)
  /-- Returns a failure that was reported elsewhere. -/
  | foreign (offset : Nat) (expected : String)
  | furthest
  | probe (name : String) (p : Blueprint)

inductive Continuation where
  /-- The text of the value between two others, literally. -/
  | literal (before after : String)
  | never (before after : String)
  | always
  /-- As many times as the text of the value says. -/
  | timesExactly (q : Blueprint)
  /-- At least as many times as the text of the value says. -/
  | timesUpTo (q : Blueprint) (most : Nat)
  | cases (branches : Branches)

/-- Blueprints chosen by a value: the first whose constant equals it, or else the last. -/
inductive Branches where
  | otherwise (q : Blueprint)
  | branch (value : Value) (q : Blueprint) (rest : Branches)

end

end Descent
