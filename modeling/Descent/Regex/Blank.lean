import Descent.Text.WhiteSpace

/-!
# Blanks in verbose expressions

With the verbose flag, white space and comments between the pieces of an expression count for
nothing. A comment runs from a number sign through the end of its line.
-/

namespace Descent.Regex

/-- Drops blanks from the front; `comment` says whether the text starts inside a comment. -/
def dropBlanks (comment : Bool) : List Char → List Char
  | [] => []
  | c :: cs =>
    if comment then dropBlanks (c != '\n') cs
    else if Text.isWhiteSpace c then dropBlanks false cs
    else if c = '#' then dropBlanks true cs
    else c :: cs

def skipBlanks (verbose : Bool) (cs : List Char) : List Char :=
  if verbose then dropBlanks false cs else cs

/-- The character that decides whether a hyphen makes a range. It follows the blanks, where of a
comment only the number sign and white space count as blank; if nothing follows, the blanks
count too. -/
def peekOver (verbose : Bool) (cs : List Char) : Option Char :=
  if verbose then
    match cs.dropWhile Text.isWhiteSpace with
    | [] => cs.head?
    | '#' :: rest => ((rest.dropWhile Text.isWhiteSpace).head?).or cs.head?
    | c :: _ => some c
  else cs.head?

theorem dropBlanks_suffix (comment : Bool) (cs : List Char) : dropBlanks comment cs <:+ cs := by
  induction cs generalizing comment with
  | nil => exact List.suffix_rfl
  | cons c cs ih =>
    unfold dropBlanks
    split
    · exact (ih _).trans (List.suffix_cons c cs)
    · split
      · exact (ih _).trans (List.suffix_cons c cs)
      · split
        · exact (ih _).trans (List.suffix_cons c cs)
        · exact List.suffix_rfl

theorem length_dropBlanks_le {c : Char} {cs : List Char}
    (blank : Text.isWhiteSpace c = true ∨ c = '#') :
    (dropBlanks false (c :: cs)).length ≤ cs.length := by
  have rest := fun comment => (dropBlanks_suffix comment cs).length_le
  simp only [dropBlanks, Bool.false_eq_true, if_false]
  split
  · exact rest false
  · split
    · exact rest true
    · exact absurd blank (by simp_all)

theorem skipBlanks_suffix (verbose : Bool) (cs : List Char) : skipBlanks verbose cs <:+ cs := by
  unfold skipBlanks
  split
  · exact dropBlanks_suffix false cs
  · exact List.suffix_rfl

theorem length_skipBlanks_le (verbose : Bool) (cs : List Char) :
    (skipBlanks verbose cs).length ≤ cs.length :=
  (skipBlanks_suffix verbose cs).length_le

/-- The characters at the front that are of a kind, which blanks may separate, and what follows
them. -/
def takeSpaced (verbose : Bool) (isKind : Char → Bool) : List Char → List Char × List Char
  | [] => ([], [])
  | c :: cs =>
    if isKind c then
      let (taken, rest) := takeSpaced verbose isKind (skipBlanks verbose cs)
      (c :: taken, rest)
    else ([], c :: cs)
termination_by cs => cs.length
decreasing_by
  have := length_skipBlanks_le verbose cs
  simp only [List.length_cons]
  omega

theorem length_takeSpaced_le (verbose : Bool) (isKind : Char → Bool) (cs : List Char) :
    (takeSpaced verbose isKind cs).2.length ≤ cs.length := by
  fun_induction takeSpaced verbose isKind cs with
  | case1 => exact Nat.le_refl 0
  | case2 c cs _ taken rest h ih =>
    have := length_skipBlanks_le verbose cs
    rw [h] at ih
    simp only [List.length_cons] at *
    omega
  | case3 => exact Nat.le_refl _

end Descent.Regex
