import Descent.Blueprint
import Descent.Blueprint.Draft
import Descent.Parser.Combinators

/-!
# From blueprints to parsers

Constructs the parser that a blueprint describes. Parts are constructed from left to right and
before the whole, and the first part that cannot be constructed decides.
-/

namespace Descent

/-- Rules named by strings, all of them for values of blueprints. -/
def valueSignature : Signature where
  Rule := String
  Result := fun _ => Value
  decEq := inferInstanceAs (DecidableEq String)

instance : ToString valueSignature.Rule :=
  inferInstanceAs (ToString String)

abbrev ValueParser : Type 1 :=
  Parser valueSignature Value

namespace ValueParser

def ofText (p : Parser valueSignature String) : ValueParser :=
  p.map .text

def ofList (p : Parser valueSignature (List Value)) : ValueParser :=
  p.map .list

def ofPair (p : Parser valueSignature (Value × Value)) : ValueParser :=
  p.map fun (a, b) => .pair a b

def ofMark (p : Parser valueSignature (Mark Value)) : ValueParser :=
  p.map fun found => .mark found.start found.value found.stop

def failAhead (distance : Nat) (expected : String) : ValueParser :=
  .custom fun _ _ offset =>
    let failure : Failure := { offset := offset + distance, expected }
    ([failure], .failed failure)

def jump (distance : Nat) : ValueParser :=
  .custom fun _ _ offset => ([], .matched (.int distance) (offset + distance))

def foreign (failure : Failure) : ValueParser :=
  .custom fun _ _ _ => ([], .failed failure)

def furthest : ValueParser :=
  .custom fun _ tracker offset =>
    let expected := (tracker.expected.map Value.text).getD .null
    ([], .matched (.tagged "tracker" (.list [.int tracker.furthest, expected])) offset)

/-- A repetition asked for while parsing; inverted bounds are a fault there. -/
def timesNow (q : ValueParser) (least most : Nat) : ValueParser :=
  match q.tryTimes least (some most) with
  | .ok p => ofList p
  | .error e => .fault (.refused e)

end ValueParser

mutual

def Blueprint.draft : Blueprint → Draft ValueParser
  | .literal text => return .ofText (.literal text)
  | .pattern source group => Draft.ofGrammar ((Parser.patternOf source group).map .ofText)
  | .anyChar => return Parser.anyChar.map .char
  | .endOfInput => return Parser.endOfInput.result .null
  | .always value => return .always value
  | .never expected => return .never expected
  | .remainder => return .ofText .remainder
  | .currentOffset => return Parser.currentOffset.map fun (n : Nat) => .int n
  | .letter => return .ofText .letter
  | .letters => return .ofText .letters
  | .digit => return .ofText .digit
  | .digits => return .ofText .digits
  | .whiteSpace => return .ofText .whiteSpace
  | .optWhiteSpace => return .ofText .optWhiteSpace
  | .map p f => return (← p.draft).map f.apply
  | .bind p next => return (← p.draft).bind (← next.draft)
  | .andThen p q => return (← p.draft).andThen (← q.draft)
  | .skip p q => return (← p.draft).skip (← q.draft)
  | .orElse p q => return (← p.draft).orElse (← q.draft)
  | .both p q => return .ofPair ((← p.draft).both (← q.draft))
  | .result p value => return (← p.draft).result value
  | .sequence ps => return .ofList (.sequence (← Blueprint.draftAll ps))
  | .alt ps => do Draft.ofFault (Parser.altOf (← Blueprint.draftAll ps))
  | .many p => return .ofList (← p.draft).many
  | .times p least most => do
    Draft.ofFault (((← p.draft).tryTimes least most).map .ofList |>.mapError .refused)
  | .tryTimes p least most => do
    Draft.ofGrammar (((← p.draft).tryTimes least most).map .ofList)
  | .atLeast p least => return .ofList ((← p.draft).atLeast least)
  | .atMost p most => return .ofList ((← p.draft).atMost most)
  | .sepBy p separator => return .ofList ((← p.draft).sepBy (← separator.draft))
  | .sepBy1 p separator => return .ofList ((← p.draft).sepBy1 (← separator.draft))
  | .mark p => return .ofMark (← p.draft).mark
  | .rule name => Draft.withSlot fun slot => Parser.lazy slot name
  | .failAhead distance expected => return .failAhead distance expected
  | .jump distance => return .jump distance
  | .foreign offset expected => Draft.noting { offset, expected } (.foreign { offset, expected })
  | .furthest => return .furthest
  | .probe name p => return .probe name (← p.draft)

def Blueprint.draftAll : List Blueprint → Draft (List ValueParser)
  | [] => return []
  | p :: ps => return (← p.draft) :: (← Blueprint.draftAll ps)

def Continuation.draft : Continuation → Draft (Value → ValueParser)
  | .literal before after =>
    return fun value => .ofText (.literal (before ++ value.allText ++ after))
  | .never before after => return fun value => .never (before ++ value.allText ++ after)
  | .always => return .always
  | .timesExactly q => do
    let q ← q.draft
    return fun value => q.timesNow (value.number?.getD 0) (value.number?.getD 0)
  | .timesUpTo q most => do
    let q ← q.draft
    return fun value => q.timesNow (value.number?.getD 0) most
  | .cases branches => branches.draft

def Branches.draft : Branches → Draft (Value → ValueParser)
  | .otherwise q => do
    let q ← q.draft
    return fun _ => q
  | .branch constant q rest => do
    let q ← q.draft
    let next ← rest.draft
    return fun value => if value == constant then q else next value

end

abbrev Plan := List (String × Blueprint)

namespace Plan

def draft : Plan → Draft (List (String × ValueParser))
  | [] => return []
  | (name, p) :: plan => return (name, ← p.draft) :: (← draft plan)

/-- The rules of a plan. The body of a rule is constructed anew for every node that needs it. -/
def grammar (rules : Plan) : Grammar valueSignature :=
  let drafts : List (String × (Except Refusal ValueParser × List Failure)) :=
    rules.map fun (name, p) => (name, p.draft.run)
  let find? (name : String) := drafts.lookup name
  { body := fun rule =>
      match find? rule with
      | some (.ok p, _) => p
      | some (.error (.error e), _) => .fault (.refused e)
      | some (.error (.fault cause), _) => .fault cause
      | none => .fault (.undefinedRule rule)
    foreign := fun rule =>
      match find? rule with
      | some (_, foreign) => foreign
      | none => [] }

/-- Constructs several parsers over common rules. The rules are tried first, for their mistakes
only. -/
def build (rules parsers : Plan) :
    Except Refusal (List (String × ValueParser)) × List Failure :=
  Draft.run do
    let _ ← rules.draft
    parsers.draft

end Plan

end Descent
