import Descent.Proofs.Closing.Bracket
import Descent.Regex.Token.Reading

/-!
# Tokens before a closing parenthesis

The next token of a closed source is that of the source.
-/

namespace Descent.Regex

namespace Closes

variable {cs closed : List Char}

theorem repetitionOf (flags : Flags) (least : Nat) (most : Option Nat) (h : Closes cs closed) :
    Agree (.ok (Token.repetitionOf flags least most cs))
      (.ok (Token.repetitionOf flags least most closed)) := by
  cases h with
  | swallowed => exact .ok _ .swallowed
  | closed => exact .ok _ .closed
  | cons c h =>
    by_cases hc : c = '?'
    · subst hc
      exact .ok _ h
    · simpa [Token.repetitionOf, hc] using Agree.ok _ (h.cons c)

theorem takeCount {verbose : Bool} {count : Option Nat} {rest : List Char} (h : Closes cs closed)
    (hcount : Token.takeCount verbose cs = (count, rest)) :
    ∃ rest', Token.takeCount verbose closed = (count, rest') ∧ Closes rest rest' := by
  have hdigits : Char.isDigit ')' = false := rfl
  obtain ⟨rest', htaken, hrest⟩ := (h.dropWhile Text.isWhiteSpace).takeSpaced rfl (.inl hdigits)
  cases hcount
  refine ⟨_, ?_, hrest.dropWhile Text.isWhiteSpace⟩
  unfold Token.takeCount
  rw [htaken]

theorem readCounted {flags : Flags} (h : Closes cs closed) :
    Agree (Token.readCounted flags cs) (Token.readCounted flags closed) := by
  unfold Token.readCounted
  simp only
  split
  · exact .error _ _
  · next least rest hleast =>
    obtain ⟨_, hleast', hcomma⟩ := (h.skipBlanks flags.verbose).takeCount hleast
    cases hcomma with
    | cons _ hrest =>
    simp only [hleast']
    have hleft := hrest.skipBlanks flags.verbose
    generalize Regex.skipBlanks flags.verbose rest = left at hleft ⊢
    generalize Regex.skipBlanks flags.verbose _ = left' at hleft ⊢
    split
    · cases hleft with
      | cons _ hrest => exact (hrest.skipBlanks flags.verbose).repetitionOf flags least none
    · next hopen =>
      have hopen' : ∀ tail, left' = '\x7d' :: tail → False :=
        hleft.ne_append ['\x7d'] (by decide) hopen
      simp only
      split
      · exact .error _ _
      · next most rest hmost =>
        obtain ⟨_, hmost', hbrace⟩ := hleft.takeCount hmost
        cases hbrace with
        | cons _ hrest =>
        simp only [hmost']
        split
        · exact (hrest.skipBlanks flags.verbose).repetitionOf flags least (some most)
        · exact .error _ _
      · exact .error _ _
  · next count rest hcount =>
    obtain ⟨_, hcount', hbrace⟩ := (h.skipBlanks flags.verbose).takeCount hcount
    cases hbrace with
    | cons _ hrest =>
    simp only [hcount']
    exact (hrest.skipBlanks flags.verbose).repetitionOf flags count (some count)
  · exact .error _ _

theorem readNamed (h : Closes cs closed) : Agree (Token.readNamed cs) (Token.readNamed closed) := by
  have hleft := h.dropWhile (· != '>')
  have hname := h.takeWhile_eq (p := (· != '>'))
  unfold Token.readNamed
  generalize cs.dropWhile (· != '>') = left at hleft hname ⊢
  generalize closed.dropWhile (· != '>') = left' at hleft ⊢
  simp only
  cases hleft with
  | swallowed | closed => exact .error _ _
  | cons _ hrest =>
    rw [hname (List.cons_ne_nil _ _)]
    simp only
    split
    · exact .ok _ hrest
    · exact .error _ _

theorem readFlags {value : Bool} {changes found : List (Flag × Bool)} {stop : Char}
    {rest : List Char} (h : Closes cs closed)
    (hread : Token.readFlags value changes cs = .ok (found, stop, rest)) :
    ∃ rest', Token.readFlags value changes closed = .ok (found, stop, rest') ∧
      Closes rest rest' := by
  fun_induction Token.readFlags value changes cs generalizing closed with
  | case1 | case3 | case4 | case5 | case6 | case8 | case9 => cases hread
  | case2 value changes c cs hstop =>
    cases hread
    cases h with
    | cons _ h =>
    refine ⟨_, ?_, h⟩
    rw [Token.readFlags.eq_def]
    simp only [hstop, if_true]
  | case7 changes cs hnil hcolon hclose hstop ih =>
    cases h with
    | cons _ h =>
    obtain ⟨rest', hread', hrest⟩ := ih h hread
    refine ⟨rest', ?_, hrest⟩
    rw [← hread', Token.readFlags]
    · rfl
    -- No colon or parenthesis comes to stand right behind the hyphen.
    · rintro rfl
      cases h
      exact hnil rfl
    · rintro _ rfl
      cases h
      exact hcolon _ rfl
    · rintro _ rfl
      cases h with
      | closed => exact hnil rfl
      | cons => exact hclose _ rfl
  | case10 value changes c cs hstop hhyphen flag hflag hnew ih =>
    cases h with
    | cons _ h =>
    obtain ⟨rest', hread', hrest⟩ := ih h hread
    refine ⟨rest', ?_, hrest⟩
    rw [← hread', Token.readFlags.eq_def]
    simp only [hstop, hhyphen, hflag, hnew, if_false, Bool.false_eq_true]

theorem readGroup {flags : Flags} (h : Closes cs closed) :
    Agree (Token.readGroup flags cs) (Token.readGroup flags closed) := by
  have hleft := h.skipBlanks flags.verbose
  unfold Token.readGroup
  generalize Regex.skipBlanks flags.verbose cs = left at hleft ⊢
  generalize Regex.skipBlanks flags.verbose closed = left' at hleft ⊢
  split
  · exact .error _ _
  · exact .error _ _
  · exact .error _ _
  · exact .error _ _
  · cases hleft with
    | cons _ hleft =>
    cases hleft with
    | cons _ hleft =>
    cases hleft with
    | cons _ hname => exact hname.readNamed
  · next inside hahead hnot =>
    cases hleft with
    | cons _ hleft =>
    cases hleft with
    | @cons _ _ inside' hname =>
    have hahead' : ∀ tail, inside' = '=' :: tail → False :=
      hname.ne_append ['='] (by decide) hahead
    have hnot' : ∀ tail, inside' = '!' :: tail → False :=
      hname.ne_append ['!'] (by decide) hnot
    simp only
    exact hname.readNamed
  · next inside hahead hnot hbehind hnotBehind hnamedP hnamed =>
    cases hleft with
    | @cons _ _ inside' hinside =>
    have hahead' : ∀ tail, inside' = '=' :: tail → False :=
      hinside.ne_append ['='] (by decide) hahead
    have hnot' : ∀ tail, inside' = '!' :: tail → False :=
      hinside.ne_append ['!'] (by decide) hnot
    have hbehind' : ∀ tail, inside' = '<' :: '=' :: tail → False :=
      hinside.ne_append ['<', '='] (by decide) hbehind
    have hnotBehind' : ∀ tail, inside' = '<' :: '!' :: tail → False :=
      hinside.ne_append ['<', '!'] (by decide) hnotBehind
    have hnamedP' : ∀ tail, inside' = 'P' :: '<' :: tail → False :=
      hinside.ne_append ['P', '<'] (by decide) hnamedP
    have hnamed' : ∀ tail, inside' = '<' :: tail → False :=
      hinside.ne_append ['<'] (by decide) hnamed
    simp only
    split
    · exact .error _ _
    · exact .error _ _
    · next hread =>
      obtain ⟨rest', hread', hrest⟩ := hinside.readFlags hread
      simp only [hread']
      exact .ok _ hrest
    · next hread =>
      obtain ⟨rest', hread', hrest⟩ := hinside.readFlags hread
      simp only [hread']
      exact .ok _ hrest
  · next hplain =>
    cases hleft with
    | swallowed => exact .ok _ .swallowed
    | closed => exact .ok _ .closed
    | cons c hleft =>
      have hc : c ≠ '?' := by
        rintro rfl
        exact hplain _ rfl
      simpa [hc] using Agree.ok _ (hleft.cons c)

theorem next {flags : Flags} (c : Char) (h : Closes cs closed) :
    Agree (Token.next flags c cs) (Token.next flags c closed) := by
  unfold Token.next
  split
  · exact h.readGroup
  · exact .ok _ h
  · exact .ok _ h
  · exact h.readBracket.map fun item : Bracket.Nested => Token.bracket item.members item.depth
  · exact h.repetitionOf flags 0 (some 1)
  · exact h.repetitionOf flags 0 none
  · exact h.repetitionOf flags 1 none
  · exact h.readCounted
  · exact h.readEscape.map (Token.ofEscape flags)
  · exact .value _ Token.one h
  · exact .ok _ h
  · exact .ok _ h
  · split
    · exact .ok _ ((h.cons _).dropBlanks false)
    · exact .ok _ h

end Closes

end Descent.Regex
