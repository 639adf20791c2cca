import Descent.Regex.Blank
import Descent.Regex.Token
import Descent.Text.Property

/-!
# Escapes

What a backslash and the characters after it stand for.
-/

namespace Descent.Regex

inductive Escape where
  | char (c : Char)
  | one (c : CharClass)
  | assertion (a : Assertion)
deriving DecidableEq, Repr

namespace Escape

/-- The character with a code point in hexadecimal digits, if there is one. -/
def codePoint? (digits : List Char) : Option Char :=
  let value := digits.foldl (fun value c => 16 * value + Text.hexValue c) 0
  if h : value.isValidChar then some (Char.ofNatAux value h) else none

/-- Exactly `count` hexadecimal digits, which blanks may separate. -/
def exactDigits (verbose : Bool) : Nat → List Char → Except Error (List Char × List Char)
  | 0, cs => .ok ([], cs)
  | _ + 1, [] => .error .badEscape
  | count + 1, c :: cs =>
    if Text.isHexDigit c then do
      let (digits, rest) ← exactDigits verbose count (skipBlanks verbose cs)
      return (c :: digits, rest)
    else .error .badEscape

/-- The digits of a code point: between braces, or else exactly `count` of them. -/
def codeDigits (verbose : Bool) (count : Nat) (cs : List Char) :
    Except Error (List Char × List Char) :=
  match skipBlanks verbose cs with
  | '\x7b' :: cs =>
    match takeSpaced verbose Text.isHexDigit (skipBlanks verbose cs) with
    | ([], _) => .error .badEscape
    | (digits, '\x7d' :: rest) => .ok (digits, rest)
    | _ => .error .badEscape
  | cs => exactDigits verbose count cs

def readCode (verbose : Bool) (count : Nat) (cs : List Char) :
    Except Error (Escape × List Char) := do
  let (digits, rest) ← codeDigits verbose count cs
  match codePoint? digits with
  | some c => return (.char c, rest)
  | none => throw .badCodePoint

/-- A character written as `x` and two digits, without braces, is a byte. Under ASCII a byte has to
be a character by itself. -/
def readByte (flags : Flags) (cs : List Char) : Except Error (Escape × List Char) := do
  let (escape, rest) ← readCode flags.verbose 2 cs
  match escape, skipBlanks flags.verbose cs with
  | .char c, first :: _ =>
    if first ≠ '\x7b' ∧ flags.repertoire = .ascii ∧ 128 ≤ c.toNat then throw .outsideAscii
    else return (escape, rest)
  | _, _ => return (escape, rest)

/-- Control characters that have a letter. -/
def control? : Char → Option Char
  | 'a' => some '\x07'
  | 'f' => some '\x0c'
  | 'n' => some '\n'
  | 'r' => some '\r'
  | 't' => some '\t'
  | 'v' => some '\x0b'
  | _ => none

def class? (repertoire : Repertoire) : Char → Option CharClass
  | 'd' => some (.digit repertoire)
  | 'D' => some (CharClass.digit repertoire).compl
  | 's' => some (.whiteSpace repertoire)
  | 'S' => some (CharClass.whiteSpace repertoire).compl
  | 'w' => some (.word repertoire)
  | 'W' => some (CharClass.word repertoire).compl
  | _ => none

def assertion? (repertoire : Repertoire) : Char → Option Assertion
  | 'A' => some .textStart
  | 'z' => some .textEnd
  | 'B' => some (.word .notBoundary repertoire)
  | '<' => some (.word .start repertoire)
  | '>' => some (.word .finish repertoire)
  | _ => none

def edge? (name : List Char) : Option WordEdge :=
  match String.ofList name with
  | "start" => some .start
  | "end" => some .finish
  | "start-half" => some .startHalf
  | "end-half" => some .finishHalf
  | _ => none

def isEdgeLetter (c : Char) : Bool :=
  c.isAlpha || c == '-'

/-- A boundary of words, or the edge that is named in braces. Braces around anything that could not
be the name of an edge are left to what follows. -/
def readBoundary (flags : Flags) (cs : List Char) : Except Error (Escape × List Char) :=
  match cs with
  | '\x7b' :: inside =>
    match takeSpaced flags.verbose isEdgeLetter (skipBlanks flags.verbose inside) with
    | ([], _) => .ok (.assertion (.word .boundary flags.repertoire), cs)
    | (name, '\x7d' :: rest) =>
      match edge? name with
      | some edge => .ok (.assertion (.word edge flags.repertoire), rest)
      | none => .error .badBoundary
    | _ => .error .badBoundary
  | cs => .ok (.assertion (.word .boundary flags.repertoire), cs)

/-- Cuts a list at the first place where the separator stands. -/
def cutAt? (separator : List Char) : List Char → Option (List Char × List Char)
  | [] => none
  | c :: cs =>
    if separator.isPrefixOf (c :: cs) then some ([], (c :: cs).drop separator.length)
    else (cutAt? separator cs).map fun (before, after) => (c :: before, after)

/-- The set that a name stands for, and whether it stands for the set's complement. A name may
consist of a property and its value with `!=`, a colon or `=` between them. -/
def namedSet? (name : List Char) : Option Text.Ranges × Bool :=
  match cutAt? ['!', '='] name with
  | some (property, value) => (Text.Property.ofValue? property value, true)
  | none =>
    match (cutAt? [':'] name).or (cutAt? ['='] name) with
    | some (property, value) => (Text.Property.ofValue? property value, false)
    | none => (Text.Property.ofName? name, false)

/-- The class of the characters with a property, or of those without it. -/
def propertyClass (flags : Flags) (isNegated : Bool) (name : List Char) :
    Except Error CharClass :=
  if flags.repertoire = .ascii then .error .outsideAscii
  else
    match namedSet? name with
    | (none, _) => .error .unknownProperty
    | (some ranges, isComplement) =>
      let folded := flags.fold { ranges }
      .ok (if isNegated = isComplement then folded else folded.compl)

/-- A property after its letter: a name in braces, or one letter. -/
def readProperty (flags : Flags) (isNegated : Bool) (cs : List Char) :
    Except Error (Escape × List Char) :=
  match skipBlanks flags.verbose cs with
  | [] | '\\' :: _ => .error .badEscape
  | '\x7b' :: inside =>
    match takeSpaced flags.verbose (· != '\x7d') (skipBlanks flags.verbose inside) with
    | (name, _ :: rest) => (propertyClass flags isNegated name).map fun c => (.one c, rest)
    | (_, []) => .error .badEscape
  | letter :: rest => (propertyClass flags isNegated [letter]).map fun c => (.one c, rest)

/-- Punctuation and control characters of ASCII may be escaped to stand for themselves. -/
def isPlain (c : Char) : Bool :=
  c.toNat < 128 && !c.isAlphanum

def read (flags : Flags) : List Char → Except Error (Escape × List Char)
  | [] => .error .badEscape
  | 'x' :: cs => readByte flags cs
  | 'u' :: cs => readCode flags.verbose 4 cs
  | 'U' :: cs => readCode flags.verbose 8 cs
  | 'b' :: cs => readBoundary flags cs
  | 'p' :: cs => readProperty flags false cs
  | 'P' :: cs => readProperty flags true cs
  | c :: cs =>
    if let some a := assertion? flags.repertoire c then .ok (.assertion a, cs)
    else if let some named := class? flags.repertoire c then
      (flags.checked named).map fun c => (.one c, cs)
    else if let some control := control? c then .ok (.char control, cs)
    else if isPlain c then .ok (.char c, cs)
    else if c.isDigit then .error .backreference
    else .error .badEscape

/-! Every reader leaves no more than it was given. -/

theorem length_exactDigits_le {verbose : Bool} {count : Nat} {cs digits rest : List Char}
    (h : exactDigits verbose count cs = .ok (digits, rest)) : rest.length ≤ cs.length := by
  induction count generalizing cs digits rest with
  | zero =>
    cases h
    exact Nat.le_refl _
  | succ count ih =>
    cases cs with
    | nil => cases h
    | cons c cs =>
      simp only [exactDigits] at h
      split at h
      · cases more : exactDigits verbose count (skipBlanks verbose cs) with
        | error e => simp [more, bind, Except.bind] at h
        | ok found =>
          obtain ⟨following, left⟩ := found
          simp only [more, bind, Except.bind, pure, Except.pure, Except.ok.injEq,
            Prod.mk.injEq] at h
          have := ih more
          have := length_skipBlanks_le verbose cs
          rw [← h.2, List.length_cons]
          omega
      · cases h

theorem length_codeDigits_le {verbose : Bool} {count : Nat} {cs digits rest : List Char}
    (h : codeDigits verbose count cs = .ok (digits, rest)) : rest.length ≤ cs.length := by
  have skipped := length_skipBlanks_le verbose cs
  unfold codeDigits at h
  split at h
  · rename_i inside opened
    have := length_takeSpaced_le verbose Text.isHexDigit (skipBlanks verbose inside)
    have := length_skipBlanks_le verbose inside
    rw [opened, List.length_cons] at skipped
    split at h
    · cases h
    · rename_i closed
      cases h
      simp only [closed, List.length_cons] at *
      omega
    · cases h
  · have := length_exactDigits_le h
    omega

theorem length_readCode_le {verbose : Bool} {count : Nat} {cs rest : List Char} {escape : Escape}
    (h : readCode verbose count cs = .ok (escape, rest)) : rest.length ≤ cs.length := by
  unfold readCode at h
  cases found : codeDigits verbose count cs with
  | error e => simp [found, bind, Except.bind] at h
  | ok parts =>
    simp only [found, bind, Except.bind] at h
    split at h
    · cases h
      exact length_codeDigits_le found
    · cases h

theorem length_readByte_le {flags : Flags} {cs rest : List Char} {escape : Escape}
    (h : readByte flags cs = .ok (escape, rest)) : rest.length ≤ cs.length := by
  unfold readByte at h
  cases found : readCode flags.verbose 2 cs with
  | error e => simp [found, bind, Except.bind] at h
  | ok parts =>
    have := length_readCode_le found
    simp only [found, bind, Except.bind] at h
    split at h
    · split at h <;> cases h
      assumption
    · cases h
      assumption

theorem length_readBoundary_le {flags : Flags} {cs rest : List Char} {escape : Escape}
    (h : readBoundary flags cs = .ok (escape, rest)) : rest.length ≤ cs.length := by
  unfold readBoundary at h
  split at h
  · rename_i inside
    have blanks := length_skipBlanks_le flags.verbose inside
    have taken := length_takeSpaced_le flags.verbose isEdgeLetter (skipBlanks flags.verbose inside)
    split at h
    · cases h
      exact Nat.le_refl _
    · rename_i closed
      rw [closed, List.length_cons] at taken
      split at h <;> cases h
      rw [List.length_cons]
      omega
    · cases h
  · cases h
    exact Nat.le_refl _

theorem length_readProperty_le {flags : Flags} {isNegated : Bool} {cs rest : List Char}
    {escape : Escape} (h : readProperty flags isNegated cs = .ok (escape, rest)) :
    rest.length ≤ cs.length := by
  have skipped := length_skipBlanks_le flags.verbose cs
  unfold readProperty at h
  split at h
  · cases h
  · cases h
  · rename_i inside opened
    have blanks := length_skipBlanks_le flags.verbose inside
    have taken := length_takeSpaced_le flags.verbose (· != '\x7d')
      (skipBlanks flags.verbose inside)
    rw [opened, List.length_cons] at skipped
    split at h
    · rename_i closed
      rw [closed, List.length_cons] at taken
      rw [rest_eq_of_map Escape.one h]
      omega
    · cases h
  · rename_i opened
    rw [opened, List.length_cons] at skipped
    rw [rest_eq_of_map Escape.one h]
    omega

theorem length_read_lt {flags : Flags} {cs rest : List Char} {escape : Escape}
    (h : read flags cs = .ok (escape, rest)) : rest.length < cs.length := by
  unfold read at h
  split at h
  · cases h
  · exact Nat.lt_succ_of_le (length_readByte_le h)
  · exact Nat.lt_succ_of_le (length_readCode_le h)
  · exact Nat.lt_succ_of_le (length_readCode_le h)
  · exact Nat.lt_succ_of_le (length_readBoundary_le h)
  · exact Nat.lt_succ_of_le (length_readProperty_le h)
  · exact Nat.lt_succ_of_le (length_readProperty_le h)
  · split at h
    · cases h
      exact Nat.lt_succ_self _
    · split at h
      · rw [rest_eq_of_map Escape.one h]
        exact Nat.lt_succ_self _
      · repeat' split at h
        all_goals cases h
        all_goals exact Nat.lt_succ_self _

end Escape

end Descent.Regex
