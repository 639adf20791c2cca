import Descent.Mark
import Descent.Parser

/-!
# Combinators

The vocabulary for writing grammars, made from the few constructors of parsers.
-/

namespace Descent

namespace Parser

variable {S : Signature} {α β : Type}

def literal (text : String) : Parser S String :=
  lexeme (.literal text)

/-- The text of a group of a pattern. The whole match decides what is consumed. -/
def patternGroup (pattern : Pattern) (group : Nat) : Parser S String :=
  lexeme (.pattern pattern group)

def pattern (pattern : Pattern) : Parser S String :=
  patternGroup pattern 0

def anyChar : Parser S Char :=
  lexeme .anyChar

def remainder : Parser S String :=
  lexeme .remainder

def patternBy (engine : Regex.Engine) (source : String) (group : Nat) :
    Except GrammarError (Parser S String) :=
  match Pattern.compileBy engine source with
  | .ok compiled => .ok (patternGroup compiled group)
  | .error e => .error e

def patternOf (source : String) (group : Nat) : Except GrammarError (Parser S String) :=
  patternBy .programs source group

/-- A pattern that the library itself writes down. -/
def builtIn (source : String) : Parser S String :=
  match patternOf source 0 with
  | .ok p => p
  | .error e => fault (.refused e)

def letter : Parser S String :=
  builtIn "[a-zA-Z]"

def letters : Parser S String :=
  builtIn "[a-zA-Z]*"

def digit : Parser S String :=
  builtIn "[0-9]"

def digits : Parser S String :=
  builtIn "[0-9]*"

def whiteSpace : Parser S String :=
  builtIn "\\s+"

def optWhiteSpace : Parser S String :=
  builtIn "\\s*"

def result (p : Parser S α) (value : β) : Parser S β :=
  p.map fun _ => value

def andThen (p : Parser S α) (q : Parser S β) : Parser S β :=
  p.bind fun _ => q

/-- Goes on with `q` and keeps the value of `p` only. -/
def skip (p : Parser S α) (q : Parser S β) : Parser S α :=
  zipWith (fun a _ => a) p q

def both (p : Parser S α) (q : Parser S β) : Parser S (α × β) :=
  zipWith Prod.mk p q

def sequence : List (Parser S α) → Parser S (List α)
  | [] => always []
  | p :: ps => zipWith List.cons p (sequence ps)

def alt (p : Parser S α) (ps : List (Parser S α)) : Parser S α :=
  ps.foldl orElse p

/-- Without alternatives there is no choice. -/
def altOf : List (Parser S α) → Except Fault (Parser S α)
  | [] => .error .noAlternative
  | p :: ps => .ok (alt p ps)

/-- A repetition with bounds that may be in the wrong order. -/
def tryTimes (p : Parser S α) (least : Nat) (most : Option Nat) :
    Except GrammarError (Parser S (List α)) :=
  match Bounds.make least most with
  | .ok bounds => .ok (p.times bounds)
  | .error e => .error e

def atLeast (p : Parser S α) (least : Nat) : Parser S (List α) :=
  p.times (.atLeast least)

def atMost (p : Parser S α) (most : Nat) : Parser S (List α) :=
  p.times (.atMost most)

def many (p : Parser S α) : Parser S (List α) :=
  p.atLeast 0

def sepBy1 (p : Parser S α) (separator : Parser S β) : Parser S (List α) :=
  (p.both (separator.andThen p).many).map fun (first, rest) => first :: rest

def sepBy (p : Parser S α) (separator : Parser S β) : Parser S (List α) :=
  (p.sepBy1 separator).orElse (always [])

def mark (p : Parser S α) : Parser S (Mark α) :=
  (currentOffset.both (p.both currentOffset)).map fun (start, value, stop) =>
    { start, value, stop }

end Parser

end Descent
