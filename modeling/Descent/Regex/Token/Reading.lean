import Descent.Regex.Bracket

/-!
# Reading tokens

Takes the next token off the text of a regular expression. The flags in force decide what a
character stands for.
-/

namespace Descent.Regex

namespace Token

/-- A repetition prefers more, unless a question mark or the flags say otherwise; both together
cancel out. -/
def repetitionOf (flags : Flags) (least : Nat) (most : Option Nat) (cs : List Char) :
    Token × List Char :=
  match cs with
  | '?' :: rest => (.repetition { least, most, many := flags.lazyFirst }, rest)
  | cs => (.repetition { least, most, many := !flags.lazyFirst }, cs)

/-- Counts fit in 32 bits. -/
def countOf? (digits : List Char) : Option Nat :=
  let value := digits.foldl (fun value c => 10 * value + (c.toNat - '0'.toNat)) 0
  if digits.isEmpty || UInt32.size ≤ value then none else some value

def takeCount (verbose : Bool) (cs : List Char) : Option Nat × List Char :=
  let (digits, rest) := takeSpaced verbose Char.isDigit (cs.dropWhile Text.isWhiteSpace)
  (countOf? digits, rest.dropWhile Text.isWhiteSpace)

def readCounted (flags : Flags) (cs : List Char) : Except Error (Token × List Char) :=
  let skip := skipBlanks flags.verbose
  match takeCount flags.verbose (skip cs) with
  | (none, _) => .error .badCount
  | (some least, ',' :: rest) =>
    match skip rest with
    | '\x7d' :: rest => .ok (repetitionOf flags least none (skip rest))
    | rest =>
      match takeCount flags.verbose rest with
      | (none, _) => .error .badCount
      | (some most, '\x7d' :: rest) =>
        if least ≤ most then .ok (repetitionOf flags least (some most) (skip rest))
        else .error .invertedCount
      | _ => .error .unclosedRepetition
  | (some count, '\x7d' :: rest) => .ok (repetitionOf flags count (some count) (skip rest))
  | _ => .error .unclosedRepetition

/-- Names of groups start with a letter or underscore; numerals, dots and brackets may follow. -/
def isGroupName : List Char → Bool
  | [] => false
  | c :: cs =>
    (c == '_' || CharClass.nameStart.contains c)
      && cs.all fun c =>
        c == '_' || c == '.' || c == '[' || c == ']' || CharClass.nameRest.contains c

def readNamed (cs : List Char) : Except Error (Token × List Char) :=
  let name := cs.takeWhile (· != '>')
  match cs.dropWhile (· != '>') with
  | _ :: rest =>
    if isGroupName name then .ok (.openCapture (some (String.ofList name)), rest)
    else .error .badGroupName
  | [] => .error .badGroupName

/-- The flags up to a colon or closing parenthesis. A hyphen, which may stand only once and not
last, switches off what follows it; no flag may stand twice. -/
def readFlags (value : Bool) (changes : List (Flag × Bool)) :
    List Char → Except Error (List (Flag × Bool) × Char × List Char)
  | [] => .error .badFlags
  | c :: cs =>
    if c = ':' || c = ')' then .ok (changes.reverse, c, cs)
    else if c = '-' then
      match value, cs with
      | false, _ | _, [] | _, ':' :: _ | _, ')' :: _ => .error .badFlags
      | true, cs => readFlags false changes cs
    else
      match Flag.ofChar? c with
      | none => .error .badFlags
      | some flag =>
        if changes.any (·.1 == flag) then .error .badFlags
        else readFlags value ((flag, value) :: changes) cs

def readGroup (flags : Flags) (cs : List Char) : Except Error (Token × List Char) :=
  match skipBlanks flags.verbose cs with
  | '?' :: '=' :: _ | '?' :: '!' :: _ | '?' :: '<' :: '=' :: _ | '?' :: '<' :: '!' :: _ =>
    .error .lookAround
  | '?' :: 'P' :: '<' :: cs | '?' :: '<' :: cs => readNamed cs
  | '?' :: cs =>
    match readFlags true [] cs with
    | .error e => .error e
    | .ok ([], ')', _) => .error .nothingToRepeat
    | .ok (changes, ')', rest) => .ok (.directive changes, rest)
    | .ok (changes, _, rest) => .ok (.openPlain changes, rest)
  | cs => .ok (.openCapture none, cs)

def ofEscape (flags : Flags) : Escape → Token
  | .char c => .one (flags.fold (.single c))
  | .one c => .one c
  | .assertion a => .assertion a

def next (flags : Flags) (c : Char) (cs : List Char) : Except Error (Token × List Char) :=
  match c with
  | '(' => readGroup flags cs
  | ')' => .ok (.closeGroup, cs)
  | '|' => .ok (.bar, cs)
  | '[' =>
    (Bracket.read flags cs).map fun (item, rest) => (.bracket item.members item.depth, rest)
  | '?' => .ok (repetitionOf flags 0 (some 1) cs)
  | '*' => .ok (repetitionOf flags 0 none cs)
  | '+' => .ok (repetitionOf flags 1 none cs)
  | '\x7b' => readCounted flags cs
  | '\\' =>
    (Escape.read flags cs).map fun (escape, rest) => (ofEscape flags escape, rest)
  | '.' => flags.dot.map fun c => (.one c, cs)
  | '^' =>
    .ok (.assertion (if flags.multiline then .lineStart flags.lineEnd else .textStart), cs)
  | '$' => .ok (.assertion (if flags.multiline then .lineEnd flags.lineEnd else .textEnd), cs)
  | c =>
    if flags.verbose && (Text.isWhiteSpace c || c == '#') then
      .ok (.blank, dropBlanks false (c :: cs))
    else .ok (.one (flags.fold (.single c)), cs)

/-! No reader leaves more than it was given. -/

theorem length_repetitionOf_le {flags : Flags} {least : Nat} {most : Option Nat}
    {cs rest : List Char} {token : Token} (h : repetitionOf flags least most cs = (token, rest)) :
    rest.length ≤ cs.length := by
  unfold repetitionOf at h
  split at h
  · cases h
    exact Nat.le_succ _
  · cases h
    exact Nat.le_refl _

theorem length_takeCount_le (verbose : Bool) (cs : List Char) :
    (takeCount verbose cs).2.length ≤ cs.length := by
  have before := (List.dropWhile_suffix (l := cs) Text.isWhiteSpace).length_le
  have digits := length_takeSpaced_le verbose Char.isDigit (cs.dropWhile Text.isWhiteSpace)
  have after := (List.dropWhile_suffix
    (l := (takeSpaced verbose Char.isDigit (cs.dropWhile Text.isWhiteSpace)).2)
    Text.isWhiteSpace).length_le
  unfold takeCount
  simp only
  omega

theorem length_readCounted_le {flags : Flags} {cs rest : List Char} {token : Token}
    (h : readCounted flags cs = .ok (token, rest)) : rest.length ≤ cs.length := by
  have blanks := fun cs => length_skipBlanks_le flags.verbose cs
  have count := fun cs => length_takeCount_le flags.verbose cs
  have first := Nat.le_trans (count (skipBlanks flags.verbose cs)) (blanks cs)
  unfold readCounted at h
  simp only at h
  split at h
  · cases h
  · rename_i least afterComma counted
    rw [counted, List.length_cons] at first
    have skipped := blanks afterComma
    split at h
    · rename_i left closed
      rw [closed, List.length_cons] at skipped
      have := length_repetitionOf_le (Except.ok.inj h)
      have := blanks left
      omega
    · have second := count (skipBlanks flags.verbose afterComma)
      split at h
      · cases h
      · rename_i most left counted
        rw [counted, List.length_cons] at second
        split at h
        · have := length_repetitionOf_le (Except.ok.inj h)
          have := blanks left
          omega
        · cases h
      · cases h
  · rename_i least left counted
    rw [counted, List.length_cons] at first
    have := length_repetitionOf_le (Except.ok.inj h)
    have := blanks left
    omega
  · cases h

theorem length_readNamed_le {cs rest : List Char} {token : Token}
    (h : readNamed cs = .ok (token, rest)) : rest.length ≤ cs.length := by
  have dropped := (List.dropWhile_suffix (l := cs) (· != '>')).length_le
  unfold readNamed at h
  simp only at h
  split at h
  · rename_i closed
    rw [closed, List.length_cons] at dropped
    split at h <;> cases h
    omega
  · cases h

theorem length_readFlags_le {value : Bool} {changes found : List (Flag × Bool)} {stop : Char}
    {cs rest : List Char} (h : readFlags value changes cs = .ok (found, stop, rest)) :
    rest.length ≤ cs.length := by
  fun_induction readFlags value changes cs with
  | case1 => cases h
  | case2 =>
    cases h
    exact Nat.le_succ _
  | case3 | case4 | case5 | case6 | case8 | case9 => cases h
  | case7 _ _ _ _ _ _ ih => exact Nat.le_succ_of_le (ih h)
  | case10 _ _ _ _ _ _ _ _ _ ih => exact Nat.le_succ_of_le (ih h)

theorem length_readGroup_le {flags : Flags} {cs rest : List Char} {token : Token}
    (h : readGroup flags cs = .ok (token, rest)) : rest.length ≤ cs.length := by
  have skipped := length_skipBlanks_le flags.verbose cs
  unfold readGroup at h
  split at h
  · cases h
  · cases h
  · cases h
  · cases h
  · rename_i left opened
    have := length_readNamed_le h
    simp only [opened, List.length_cons] at skipped
    omega
  · rename_i left opened
    have := length_readNamed_le h
    simp only [opened, List.length_cons] at skipped
    omega
  · rename_i left opened
    rw [opened, List.length_cons] at skipped
    split at h
    · cases h
    · cases h
    · rename_i read
      have := length_readFlags_le read
      cases h
      omega
    · rename_i read
      have := length_readFlags_le read
      cases h
      omega
  · cases h
    exact skipped

theorem length_le_of_map {α : Type} (make : α → Token) {read : Except Error (α × List Char)}
    {cs rest : List Char} {token : Token}
    (le : ∀ {a rest}, read = .ok (a, rest) → rest.length ≤ cs.length)
    (h : (read.map fun (a, rest) => (make a, rest)) = .ok (token, rest)) :
    rest.length ≤ cs.length := by
  cases read with
  | error e => cases h
  | ok found =>
    obtain ⟨a, left⟩ := found
    cases h
    exact le rfl

/-- A token takes at least the character that it starts with. -/
theorem length_next_le {flags : Flags} {c : Char} {cs rest : List Char} {token : Token}
    (h : next flags c cs = .ok (token, rest)) : rest.length ≤ cs.length := by
  unfold next at h
  split at h
  · exact length_readGroup_le h
  · cases h
    exact Nat.le_refl _
  · cases h
    exact Nat.le_refl _
  · exact length_le_of_map (fun item : Bracket.Nested => bracket item.members item.depth)
      (fun h => Nat.le_of_lt (Bracket.length_read_lt h)) h
  · exact length_repetitionOf_le (Except.ok.inj h)
  · exact length_repetitionOf_le (Except.ok.inj h)
  · exact length_repetitionOf_le (Except.ok.inj h)
  · exact length_readCounted_le h
  · exact length_le_of_map (ofEscape flags)
      (fun h => Nat.le_of_lt (Escape.length_read_lt h)) h
  · exact Nat.le_of_eq (congrArg List.length (rest_eq_of_map Token.one h))
  · cases h
    exact Nat.le_refl _
  · cases h
    exact Nat.le_refl _
  · split at h
    · rename_i blank
      cases h
      rw [Bool.and_eq_true, Bool.or_eq_true, beq_iff_eq] at blank
      exact length_dropBlanks_le blank.2
    · cases h
      exact Nat.le_refl _

end Token

end Descent.Regex
