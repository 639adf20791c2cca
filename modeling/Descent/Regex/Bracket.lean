import Descent.Regex.Escape

/-!
# Bracketed classes

Classes in square brackets: characters, ranges, escapes, named classes, nested brackets, and the
operations of intersection, difference and symmetric difference between what stands to the left
and to the right. All operations bind alike, from the left.

A class is read together with its depth: a bracket is one level deeper than its contents, and so
are an operation than its operands and a list of two or more members than its members.
-/

namespace Descent.Regex

namespace Bracket

inductive Operation where
  | inter
  | diff
  | symmDiff
deriving DecidableEq, Repr

def Operation.apply : Operation → CharClass → CharClass → CharClass
  | inter => .inter
  | diff => .diff
  | symmDiff => .symmDiff

/-- A class and how deep it nests. -/
structure Nested where
  members : CharClass
  depth : Nat
deriving DecidableEq, Repr

def Nested.ofClass (members : CharClass) : Nested where
  members := members
  depth := 0

/-- The members listed in a bracket since it was opened or since the last operation. -/
structure Listing where
  members : CharClass
  count : Nat
  depth : Nat
deriving DecidableEq, Repr

namespace Listing

def none : Listing where
  members := .empty
  count := 0
  depth := 0

def add (listing : Listing) (item : Nested) : Listing where
  members := listing.members.union item.members
  count := listing.count + 1
  depth := max listing.depth item.depth

def nested (listing : Listing) : Nested where
  members := listing.members
  depth := if listing.count ≤ 1 then listing.depth else listing.depth + 1

end Listing

/-- A bracket that is not closed yet: the operand to the left of a pending operation, and the
members listed since. -/
structure Opening where
  negated : Bool
  left : Option (Nested × Operation)
  listing : Listing
deriving DecidableEq, Repr

namespace Opening

def add (opening : Opening) (item : Nested) : Opening :=
  { opening with listing := opening.listing.add item }

/-- What has been listed, with the pending operation carried out. -/
def operand (opening : Opening) : Nested :=
  let right := opening.listing.nested
  match opening.left with
  | none => right
  | some (left, operation) =>
    { members := operation.apply left.members right.members
      depth := max left.depth right.depth + 1 }

def operate (opening : Opening) (operation : Operation) : Opening :=
  { opening with left := some (opening.operand, operation), listing := .none }

def close (flags : Flags) (opening : Opening) : Except Error Nested :=
  let operand := opening.operand
  (flags.checked (if opening.negated then operand.members.compl else operand.members)).map
    fun members => { members, depth := operand.depth + 1 }

end Opening

/-- The hyphens at the front, with the blanks between them, and what follows. -/
def takeHyphens (verbose : Bool) : List Char → Nat × List Char
  | [] => (0, [])
  | c :: cs =>
    if c = '-' then
      let (count, rest) := takeHyphens verbose (skipBlanks verbose cs)
      (count + 1, rest)
    else (0, c :: cs)
termination_by cs => cs.length
decreasing_by
  have := (skipBlanks_suffix verbose cs).length_le
  simp only [List.length_cons]
  omega

/-- Whether a caret stands at the front, and what follows it and the blanks after it. -/
def takeCaret (verbose : Bool) : List Char → Bool × List Char
  | '^' :: rest => (true, skipBlanks verbose rest)
  | cs => (false, cs)

/-- The beginning of a bracket: a caret negates; hyphens, or else one closing bracket, right at the
beginning stand for themselves. -/
def openingOf (flags : Flags) (cs : List Char) : Opening × List Char :=
  let (negated, cs) := takeCaret flags.verbose (skipBlanks flags.verbose cs)
  let (hyphens, rest) := takeHyphens flags.verbose cs
  match hyphens, rest with
  | 0, ']' :: rest =>
    ({ negated, left := none, listing := Listing.none.add (.ofClass (.single ']')) }, rest)
  | 0, rest => ({ negated, left := none, listing := .none }, rest)
  | count, rest =>
    ({ negated, left := none, listing := { members := .single '-', count, depth := 0 } }, rest)

/-- A named class such as `:alpha:]`, or with a caret before the name its complement, which is
taken last. -/
def named? (flags : Flags) (cs : List Char) : Option (CharClass × List Char) :=
  match cs with
  | ':' :: cs =>
    let (negated, cs) := takeCaret false cs
    let name := cs.takeWhile (· != ':')
    match cs.dropWhile (· != ':') with
    | ':' :: ']' :: rest =>
      (CharClass.named.lookup (String.ofList name)).map fun c =>
        (if negated then (flags.fold c).compl else flags.fold c, rest)
    | _ => none
  | _ => none

def readItem (flags : Flags) : List Char → Except Error (Escape × List Char)
  | [] => .error .unclosedClass
  | '\\' :: cs => Escape.read flags cs
  | c :: cs => .ok (.char c, cs)

def itemClass (flags : Flags) : Escape → Except Error CharClass
  | .char c => flags.checked (flags.fold (.single c))
  | .one c => .ok c
  | .assertion _ => .error .badClassItem

/-- A hyphen makes a range, unless the bracket seems to end after it or another hyphen to
follow. -/
def rangeEnd? (flags : Flags) (cs : List Char) : Option (List Char) :=
  match skipBlanks flags.verbose cs with
  | '-' :: rest =>
    match peekOver flags.verbose rest with
    | some ']' | some '-' => none
    | _ => some (skipBlanks flags.verbose rest)
  | _ => none

def readRange (flags : Flags) (cs : List Char) : Except Error (CharClass × List Char) := do
  let (first, rest) ← readItem flags cs
  match rangeEnd? flags rest with
  | none => return (← itemClass flags first, rest)
  | some rest =>
    let (last, rest) ← readItem flags rest
    match first, last with
    | .char low, .char high =>
      if low ≤ high then (flags.checked (flags.fold (.range low high))).map fun c => (c, rest)
      else .error .invertedRange
    | _, _ => throw .badClassItem

/-- The open brackets, the innermost apart, or the class of the outermost one once it closed. -/
inductive Progress where
  | inside (opening : Opening) (outer : List Opening)
  | closed (item : Nested)

/-- A closed bracket is an item of the one around it. -/
def Progress.after (item : Nested) : List Opening → Progress
  | [] => closed item
  | parent :: outer => inside (parent.add item) outer

def step (flags : Flags) (opening : Opening) (outer : List Opening) (cs : List Char) :
    Except Error (Progress × List Char) :=
  match skipBlanks flags.verbose cs with
  | [] => .error .unclosedClass
  | '[' :: cs =>
    match named? flags cs with
    | some (c, rest) =>
      (flags.checked c).map fun c => (.inside (opening.add (.ofClass c)) outer, rest)
    | none =>
      let (inner, rest) := openingOf flags cs
      .ok (.inside inner (opening :: outer), rest)
  | ']' :: cs => (opening.close flags).map fun item => (.after item outer, cs)
  | '&' :: '&' :: cs => .ok (.inside (opening.operate .inter) outer, cs)
  | '-' :: '-' :: cs => .ok (.inside (opening.operate .diff) outer, cs)
  | '~' :: '~' :: cs => .ok (.inside (opening.operate .symmDiff) outer, cs)
  | cs => do
    let (c, rest) ← readRange flags cs
    return (.inside (opening.add (.ofClass c)) outer, rest)

/-! Every reader takes at least one character, or for the beginning of a bracket none. -/

theorem length_takeHyphens_le (verbose : Bool) (cs : List Char) :
    (takeHyphens verbose cs).2.length ≤ cs.length := by
  fun_induction takeHyphens verbose cs with
  | case1 => exact Nat.le_refl 0
  | case2 cs count rest h ih =>
    have := length_skipBlanks_le verbose cs
    rw [h] at ih
    simp only [List.length_cons] at *
    omega
  | case3 => exact Nat.le_refl _

theorem length_takeCaret_le (verbose : Bool) (cs : List Char) :
    (takeCaret verbose cs).2.length ≤ cs.length := by
  unfold takeCaret
  split
  · exact Nat.le_succ_of_le (length_skipBlanks_le _ _)
  · exact Nat.le_refl _

theorem length_openingOf_le (flags : Flags) (cs : List Char) :
    (openingOf flags cs).2.length ≤ cs.length := by
  have skipped := length_skipBlanks_le flags.verbose cs
  have caret := length_takeCaret_le flags.verbose (skipBlanks flags.verbose cs)
  unfold openingOf
  generalize takeCaret flags.verbose (skipBlanks flags.verbose cs) = found at caret
  obtain ⟨negated, inside⟩ := found
  have hyphens := length_takeHyphens_le flags.verbose inside
  simp only at caret ⊢
  generalize takeHyphens flags.verbose inside = found at hyphens
  obtain ⟨count, rest⟩ := found
  simp only at hyphens ⊢
  split
  · rw [List.length_cons] at hyphens
    simp only
    omega
  · simp only
    omega
  · simp only
    omega

theorem length_named?_lt {flags : Flags} {cs rest : List Char} {c : CharClass}
    (h : named? flags cs = some (c, rest)) : rest.length < cs.length := by
  unfold named? at h
  split at h
  · rename_i cs
    have caret := length_takeCaret_le false cs
    generalize takeCaret false cs = found at caret h
    obtain ⟨negated, inside⟩ := found
    have dropped := (List.dropWhile_suffix (l := inside) (· != ':')).length_le
    simp only at caret h
    split at h
    · rename_i closed
      rw [closed] at dropped
      obtain ⟨_, _, e⟩ := Option.map_eq_some_iff.1 h
      cases e
      simp only [List.length_cons] at *
      omega
    · cases h
  · cases h

theorem length_readItem_lt {flags : Flags} {cs rest : List Char} {escape : Escape}
    (h : readItem flags cs = .ok (escape, rest)) : rest.length < cs.length := by
  unfold readItem at h
  split at h
  · cases h
  · exact Nat.lt_succ_of_lt (Escape.length_read_lt h)
  · cases h
    exact Nat.lt_succ_self _

theorem length_rangeEnd?_lt {flags : Flags} {cs rest : List Char}
    (h : rangeEnd? flags cs = some rest) : rest.length < cs.length := by
  have skipped := length_skipBlanks_le flags.verbose cs
  unfold rangeEnd? at h
  split at h
  · rename_i inside opened
    rw [opened, List.length_cons] at skipped
    have := length_skipBlanks_le flags.verbose inside
    split at h
    · cases h
    · cases h
    · cases h
      omega
  · cases h

theorem length_readRange_lt {flags : Flags} {cs rest : List Char} {c : CharClass}
    (h : readRange flags cs = .ok (c, rest)) : rest.length < cs.length := by
  unfold readRange at h
  cases first : readItem flags cs with
  | error e => simp [first, bind, Except.bind] at h
  | ok found =>
    obtain ⟨low, afterLow⟩ := found
    have := length_readItem_lt first
    simp only [first, bind, Except.bind] at h
    split at h
    · split at h
      · cases h
      · cases h
        assumption
    · rename_i afterHyphen hyphen
      have := length_rangeEnd?_lt hyphen
      cases second : readItem flags afterHyphen with
      | error e => simp [second] at h
      | ok found =>
        obtain ⟨high, afterHigh⟩ := found
        have := length_readItem_lt second
        simp only [second] at h
        split at h
        · split at h
          · rw [rest_eq_of_map id h]
            omega
          · cases h
        · cases h

theorem length_step_lt {flags : Flags} {opening : Opening} {outer : List Opening}
    {cs rest : List Char} {progress : Progress}
    (h : step flags opening outer cs = .ok (progress, rest)) : rest.length < cs.length := by
  have skipped := length_skipBlanks_le flags.verbose cs
  unfold step at h
  split at h
  · cases h
  · rename_i inside opened
    rw [opened, List.length_cons] at skipped
    split at h
    · rename_i name
      have := length_named?_lt name
      rw [rest_eq_of_map (fun c => Progress.inside (opening.add (.ofClass c)) outer) h]
      omega
    · have := length_openingOf_le flags inside
      simp only [Except.ok.injEq, Prod.mk.injEq] at h
      rw [← h.2]
      omega
  · rename_i inside closed
    rw [closed, List.length_cons] at skipped
    rw [rest_eq_of_map (fun item => Progress.after item outer) h]
    omega
  all_goals try
    rename_i inside operation
    rw [operation, List.length_cons, List.length_cons] at skipped
    cases h
    omega
  cases item : readRange flags (skipBlanks flags.verbose cs) with
  | error e => simp [item, bind, Except.bind] at h
  | ok found =>
    have := length_readRange_lt item
    simp only [item, bind, Except.bind, pure, Except.pure] at h
    cases h
    omega

def readInside (flags : Flags) (opening : Opening) (outer : List Opening) (cs : List Char) :
    Except Error (Nested × List Char) :=
  match _h : step flags opening outer cs with
  | .error e => .error e
  | .ok (.closed item, rest) => .ok (item, rest)
  | .ok (.inside opening outer, rest) => readInside flags opening outer rest
termination_by cs.length
decreasing_by exact length_step_lt _h

def read (flags : Flags) (cs : List Char) : Except Error (Nested × List Char) :=
  let (opening, rest) := openingOf flags cs
  readInside flags opening [] rest

theorem length_readInside_lt {flags : Flags} {opening : Opening} {outer : List Opening}
    {cs rest : List Char} {item : Nested}
    (h : readInside flags opening outer cs = .ok (item, rest)) : rest.length < cs.length := by
  fun_induction readInside flags opening outer cs with
  | case1 => cases h
  | case2 _ _ _ _ _ step =>
    cases h
    exact length_step_lt step
  | case3 _ _ _ _ _ _ step ih => exact Nat.lt_trans (ih h) (length_step_lt step)

theorem length_read_lt {flags : Flags} {cs rest : List Char} {item : Nested}
    (h : read flags cs = .ok (item, rest)) : rest.length < cs.length :=
  Nat.lt_of_lt_of_le (length_readInside_lt h) (length_openingOf_le flags cs)

end Bracket

end Descent.Regex
