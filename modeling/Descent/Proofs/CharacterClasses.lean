import Descent.Proofs.CharacterRun
import Descent.Proofs.Nested

/-!
# Letters, digits and white space

The patterns for as many letters, digits or blanks as there are take the longest run of them: up to
the first other character, however many bytes that has. For letters and digits this is what comes
of repeating the pattern for one of them.
-/

namespace Descent

namespace Regex

/-- One member of a class, and nothing else. -/
def Tree.only (members : CharClass) : Tree :=
  .concat (.assertion .textStart) (.one members)

namespace Program

variable {members : CharClass}

/-- The program of `Tree.only`. -/
def ofOnly (members : CharClass) : Program where
  states := #[.accept, .one members 0, .assertion .textStart 1]
  start := 2

theorem run_accept_ofOnly (place : Place) (best : Option Finish) :
    (ofOnly members).run place [{ state := 0, trail := [] }] best =
      some { stop := place.index, trail := [] } := by
  rw [run, explore_accept rfl (by simp)]
  cases place.rest with
  | nil => rfl
  | cons c rest => rfl

theorem run_ofOnly (text : Text) :
    (ofOnly members).run { index := 0, before := none, rest := text }
        [{ state := 2, trail := [] }] none =
      if text.head?.any members.contains then some { stop := 1, trail := [] } else none := by
  have hseen : ((∅ : StateSet).insert 2).contains 1 = false := by simp
  rw [run, explore_assertion rfl (by simp) rfl, explore_one rfl hseen, explore]
  cases text with
  | nil => rfl
  | cons c rest =>
    by_cases h : members.contains c = true
    · simp [Frontier.step, Place.advance, h, run_accept_ofOnly]
    · simp [Frontier.step, h]

end Program

namespace CharClass

def letters : CharClass :=
  .ofRanges [('A', 'Z'), ('a', 'z')]

theorem contains_letters : letters.contains = Char.isAlpha := by
  funext c
  have hranges : letters.ranges = [(65, 90), (97, 122)] := by decide +kernel
  have halpha : c.isAlpha = (decide (c.val ≥ 'A'.val ∧ c.val ≤ 'Z'.val) ||
      (decide (c.val ≥ 'a'.val) && decide (c.val ≤ 'z'.val))) := rfl
  rw [Bool.eq_iff_iff, halpha]
  simp only [CharClass.contains, hranges, Text.Ranges.contains, UInt32.le_iff_toNat_le, ge_iff_le]
  simp
  omega

theorem contains_digits : (digit .ascii).contains = Char.isDigit := by
  funext c
  rw [Bool.eq_iff_iff]
  simp [digit, contains_range, Char.isDigit, Char.le_def]

theorem letters_ne_empty : letters ≠ .empty := by
  decide +kernel

theorem digits_ne_empty : digit .ascii ≠ .empty := by
  decide +kernel

end CharClass

end Regex

open Regex

namespace Pattern

variable {members : CharClass}

def ofOnly (source : String) (members : CharClass) : Pattern :=
  .ofCompiled .programs source (.ofTree (.only members))

theorem find?_only (text : Text) :
    (Regex.ofTree (.only members)).find? text =
      ((Program.ofOnly members).run { index := 0, before := none, rest := text }
        [{ state := 2, trail := [] }] none).map fun finish =>
          { whole := { start := 0, stop := finish.stop }, trail := finish.trail } :=
  rfl

theorem read?_ofOnly (source : String) (text : Text) :
    (ofOnly source members).read? 0 text =
      if text.head?.any members.contains then some (String.ofList (text.take 1), 1) else none := by
  simp only [read?, readWhole?, ofOnly, ofCompiled, Engine.programs, find?_only, Program.run_ofOnly,
    if_true]
  split <;> simp [Span.text]

theorem compile_eq_ofOnly {source : String} {alone : Tree}
    (halone : Tree.ofSource source.toList = .ok alone) (hfits : Weight.fits alone = true)
    (htied : Tree.ofSource (anchored source).toList = .ok (.only members))
    (htiedFits : Weight.fits (.only members) = true) :
    compile source = .ok (ofOnly source members) := by
  simp only [compile, compileBy, Engine.programs, Regex.compile_eq_ofTree halone hfits,
    Regex.compile_eq_ofTree htied htiedFits]
  rfl

theorem compile_letter : compile "[a-zA-Z]" = .ok (ofOnly "[a-zA-Z]" .letters) := by
  have halone : Tree.ofSource "[a-zA-Z]".toList = .ok (.one .letters) := by
    decide +kernel
  exact compile_eq_ofOnly halone (by decide +kernel) (by decide +kernel) (by decide +kernel)

theorem compile_letters : compile "[a-zA-Z]*" = .ok (ofRun "[a-zA-Z]*" 0 .letters) := by
  have halone : Tree.ofSource "[a-zA-Z]*".toList = .ok (.repetition
      { least := 0, most := none, many := true } (.one .letters)) := by
    decide +kernel
  exact compile_eq_ofRun halone (by decide +kernel) (by decide +kernel) (by decide +kernel)

theorem compile_digit : compile "[0-9]" = .ok (ofOnly "[0-9]" (.digit .ascii)) := by
  have halone : Tree.ofSource "[0-9]".toList = .ok (.one (.digit .ascii)) := by
    decide +kernel
  exact compile_eq_ofOnly halone (by decide +kernel) (by decide +kernel) (by decide +kernel)

theorem compile_digits : compile "[0-9]*" = .ok (ofRun "[0-9]*" 0 (.digit .ascii)) := by
  have halone : Tree.ofSource "[0-9]*".toList = .ok (.repetition
      { least := 0, most := none, many := true } (.one (.digit .ascii))) := by
    decide +kernel
  exact compile_eq_ofRun halone (by decide +kernel) (by decide +kernel) (by decide +kernel)

theorem compile_whiteSpace : compile "\\s+" = .ok (ofRun "\\s+" 1 (.whiteSpace .unicode)) := by
  have halone : Tree.ofSource "\\s+".toList = .ok (.repetition
      { least := 1, most := none, many := true } (.one (.whiteSpace .unicode))) := by
    decide +kernel
  exact compile_eq_ofRun halone (by decide +kernel) (by decide +kernel) (by decide +kernel)

end Pattern

/-- A text begins with `taken`, which is all members, and goes on with what is none. -/
structure Text.IsLongestRun (isMember : Char → Bool) (text taken left : Text) : Prop where
  split : text = taken ++ left
  members : ∀ c ∈ taken, isMember c = true
  stops : ∀ c ∈ left.head?, isMember c = false

theorem Text.isLongestRun_takeWhile (isMember : Char → Bool) (text : Text) :
    IsLongestRun isMember text (text.takeWhile isMember) (text.dropWhile isMember) where
  split := List.takeWhile_append_dropWhile.symm
  members := List.all_eq_true.mp List.all_takeWhile
  stops c hc := by
    have := List.head?_dropWhile_not isMember text
    rw [Option.mem_def.mp hc] at this
    simpa using this

/-- A run that takes a text for its value and leaves everything else as it was. -/
def Run.taking {S : Signature} (memory : Memory S) (offset : Nat) (taken : Text) : Run S String :=
  .quiet memory (.matched (String.ofList taken) (offset + taken.size))

namespace Action

variable {S : Signature} {input rest : Text} {offset : Nat} {members : CharClass}

theorem run_zero_eq_taking (hmembers : members ≠ .empty) (source : String)
    (hrest : input.after? offset = some rest) (memory : Memory S) :
    (Lexeme.pattern (.ofRun source 0 members) 0).run input offset memory =
      some (.taking memory offset (rest.takeWhile members.contains)) := by
  rw [Lexeme.run_of_some _ hrest (Pattern.read?_ofRun_zero hmembers source rest),
    Text.take_length_takeWhile]
  rfl

theorem run_one_eq (source : String) (hrest : input.after? offset = some rest)
    (memory : Memory S) :
    (Lexeme.pattern (.ofRun source 1 members) 0).run input offset memory =
      some (if rest.takeWhile members.contains = [] then .failing memory ⟨offset, s!"/{source}/"⟩
        else .taking memory offset (rest.takeWhile members.contains)) := by
  by_cases hnone : rest.takeWhile members.contains = []
  · have hread := (Pattern.read?_ofRun_one source rest).trans (if_pos hnone)
    rw [Lexeme.run_of_none _ hrest hread, if_pos hnone]
    rfl
  · have hread := (Pattern.read?_ofRun_one source rest).trans (if_neg hnone)
    rw [Lexeme.run_of_some _ hrest hread, if_neg hnone, Text.take_length_takeWhile]
    rfl

theorem only_eq_taking (source : String) {c : Char} (hc : members.contains c = true)
    (hrest : input.after? offset = some (c :: rest)) (memory : Memory S) :
    (Lexeme.pattern (.ofOnly source members) 0).run input offset memory =
      some (.taking memory offset [c]) := by
  have hread : (Lexeme.pattern (.ofOnly source members) 0).read? (c :: rest) =
      some (String.ofList [c], 1) :=
    (Pattern.read?_ofOnly source (c :: rest)).trans (if_pos hc)
  rw [Lexeme.run_of_some _ hrest hread]
  rfl

theorem only_eq_failing (source : String) (hrest : input.after? offset = some rest)
    (hnone : rest.head?.any members.contains = false) (memory : Memory S) :
    (Lexeme.pattern (.ofOnly source members) 0).run input offset memory =
      some (.failing memory ⟨offset, s!"/{source}/"⟩) := by
  have hread : (Lexeme.pattern (.ofOnly source members) 0).read? rest = none := by
    refine (Pattern.read?_ofOnly source rest).trans ?_
    rw [hnone]
    rfl
  rw [Lexeme.run_of_none _ hrest hread]
  rfl

/-- Member after member is taken, up to the first character that is none. -/
theorem exists_run_optional_only (source : String) (hrest : input.after? offset = some rest)
    {fuel : Nat} (hfuel : rest.length < fuel) (memory : Memory S) :
    ∃ run, ((Lexeme.pattern (.ofOnly source members) 0).run input).optional unfinished fuel offset
        memory = some run ∧
      run.outcome = .matched ((rest.takeWhile members.contains).map fun c => String.ofList [c])
        (offset + Text.size (rest.takeWhile members.contains)) := by
  induction rest generalizing offset fuel memory with
  | nil =>
    obtain ⟨fuel, rfl⟩ := Nat.exists_eq_add_one_of_ne_zero (Nat.ne_of_gt hfuel)
    exact ⟨_, optional_of_failed (only_eq_failing source hrest rfl memory) rfl fuel, rfl⟩
  | cons c rest ih =>
    obtain ⟨fuel, rfl⟩ := Nat.exists_eq_add_one_of_ne_zero (Nat.ne_of_gt (Nat.zero_lt_of_lt hfuel))
    by_cases hc : members.contains c = true
    · have hafter : input.after? (offset + c.utf8Size) = some rest := by
        rw [← List.singleton_append] at hrest
        exact Text.after?_add hrest
      obtain ⟨run, hrun, hmatched⟩ := ih hafter (Nat.lt_of_succ_lt_succ hfuel) memory
      have hmore : ((Lexeme.pattern (.ofOnly source members) 0).run input).optional unfinished
          (fuel + 1) offset memory = some ((run.map (String.ofList [c] :: ·)).after []) := by
        rw [optional_of_matched (only_eq_taking source hc hrest memory) rfl fuel]
        refine Option.map_eq_some_iff.mpr ⟨_, Option.map_eq_some_iff.mpr ⟨run, hrun, rfl⟩, rfl⟩
      refine ⟨_, hmore, ?_⟩
      rw [Run.outcome_after]
      refine (congrArg (Outcome.map _) hmatched).trans ?_
      simp [Outcome.map, hc, Nat.add_assoc]
    · refine ⟨_, optional_of_failed (only_eq_failing source hrest ?_ memory) rfl fuel, ?_⟩
      · simpa using hc
      · simp [hc]

end Action

theorem Text.join_map_ofList (text : Text) :
    String.join (text.map fun c => String.ofList [c]) = String.ofList text := by
  rw [← String.toList_inj, String.toList_join, String.toList_ofList, List.flatMap_map]
  simp

namespace Parser

variable {S : Signature} {grammar : Grammar S} {input rest : Text} {offset fuel : Nat}

theorem runWithin_builtIn {source : String} {pattern : Pattern}
    (h : Pattern.compile source = .ok pattern) (fuel : Nat) :
    (builtIn source).runWithin grammar input (fuel + 1) =
      (Lexeme.pattern pattern 0).run input := by
  rw [builtIn_eq_pattern h]
  rfl

theorem runWithin_builtIn_many {source : String} {pattern : Pattern}
    (h : Pattern.compile source = .ok pattern) (fuel : Nat) :
    (builtIn source).many.runWithin grammar input (fuel + 1) =
      ((Lexeme.pattern pattern 0).run input).optional .unfinished fuel := by
  rw [builtIn_eq_pattern h]
  exact Action.times_atLeast_zero _ fuel

section Class

variable {members : CharClass} {one many : String}

/-- The pattern for a run of characters does what repeating the pattern for one of them does. -/
theorem runWithin_run_and_many (hmany : Pattern.compile many = .ok (.ofRun many 0 members))
    (hone : Pattern.compile one = .ok (.ofOnly one members)) (hmembers : members ≠ .empty)
    (hrest : input.after? offset = some rest) (memory : Memory S) (hfuel : rest.length + 1 < fuel) :
    (builtIn many).runWithin grammar input fuel offset memory =
        some (.taking memory offset (rest.takeWhile members.contains)) ∧
      ∃ run values, (builtIn one).many.runWithin grammar input fuel offset memory = some run ∧
        run.outcome = .matched values
          (offset + Text.size (rest.takeWhile members.contains)) ∧
        String.join values = String.ofList (rest.takeWhile members.contains) := by
  obtain ⟨fuel, rfl⟩ := Nat.exists_eq_add_one_of_ne_zero (Nat.ne_of_gt (Nat.zero_lt_of_lt hfuel))
  rw [runWithin_builtIn hmany, runWithin_builtIn_many hone]
  refine ⟨Action.run_zero_eq_taking hmembers many hrest memory, ?_⟩
  obtain ⟨run, hrun, hmatched⟩ :=
    Action.exists_run_optional_only one hrest (Nat.lt_of_succ_lt_succ hfuel) memory
  exact ⟨run, _, hrun, hmatched, Text.join_map_ofList _⟩

end Class

/-- Letters, digits and blanks are taken in the longest run that there is, without a report; if
there are none, only the pattern that asks for one blank at least fails, where it started. Repeating
the pattern for one letter or digit comes to the same value and the same place. -/
theorem characters_takeRuns (hrest : input.after? offset = some rest) (memory : Memory S)
    (hfuel : rest.length + 1 < fuel) :
    (∃ taken left, Text.IsLongestRun Char.isAlpha rest taken left ∧
      letters.runWithin grammar input fuel offset memory = some (.taking memory offset taken) ∧
      ∃ run values, letter.many.runWithin grammar input fuel offset memory = some run ∧
        run.outcome = .matched values (offset + taken.size) ∧
        String.join values = String.ofList taken) ∧
    (∃ taken left, Text.IsLongestRun Char.isDigit rest taken left ∧
      digits.runWithin grammar input fuel offset memory = some (.taking memory offset taken) ∧
      ∃ run values, digit.many.runWithin grammar input fuel offset memory = some run ∧
        run.outcome = .matched values (offset + taken.size) ∧
        String.join values = String.ofList taken) ∧
    ∃ taken left, Text.IsLongestRun Text.isWhiteSpace rest taken left ∧
      optWhiteSpace.runWithin grammar input fuel offset memory =
        some (.taking memory offset taken) ∧
      whiteSpace.runWithin grammar input fuel offset memory =
        some (if taken = [] then .failing memory ⟨offset, "/\\s+/"⟩
          else .taking memory offset taken) := by
  refine ⟨⟨_, _, Text.isLongestRun_takeWhile Char.isAlpha rest, ?_⟩,
    ⟨_, _, Text.isLongestRun_takeWhile Char.isDigit rest, ?_⟩,
    ⟨_, _, Text.isLongestRun_takeWhile Text.isWhiteSpace rest, ?_⟩⟩
  · rw [← CharClass.contains_letters]
    exact runWithin_run_and_many Pattern.compile_letters Pattern.compile_letter
      CharClass.letters_ne_empty hrest memory hfuel
  · rw [← CharClass.contains_digits]
    exact runWithin_run_and_many Pattern.compile_digits Pattern.compile_digit
      CharClass.digits_ne_empty hrest memory hfuel
  · obtain ⟨fuel, rfl⟩ :=
      Nat.exists_eq_add_one_of_ne_zero (Nat.ne_of_gt (Nat.zero_lt_of_lt hfuel))
    rw [optWhiteSpace, whiteSpace, runWithin_builtIn Pattern.compile_optWhiteSpace,
      runWithin_builtIn Pattern.compile_whiteSpace]
    exact ⟨Action.run_zero_eq_taking CharClass.whiteSpace_ne_empty _ hrest memory,
      Action.run_one_eq _ hrest memory⟩

end Parser

/-- Behind a letter of two bytes there are a blank of three bytes and one of one byte. -/
theorem Nested.blanks_takeRuns :
    Text.after? "né\u3000 7".toList 3 = some ['\u3000', ' ', '7'] ∧
      ['\u3000', ' ', '7'].length + 1 < 9 ∧
      ∃ taken left, Text.IsLongestRun Text.isWhiteSpace ['\u3000', ' ', '7'] taken left ∧
        Parser.whiteSpace.runWithin Nested.grammar "né\u3000 7".toList 9 3 ⟨.empty, .empty⟩ =
          some (.taking ⟨.empty, .empty⟩ 3 taken) ∧
        String.ofList taken = "\u3000 " ∧ 3 + taken.size = 7 := by
  have hrest : Text.after? "né\u3000 7".toList 3 = some ['\u3000', ' ', '7'] := by
    decide
  have hfuel : ['\u3000', ' ', '7'].length + 1 < 9 := by
    decide
  have houtcome : ((Parser.whiteSpace.runWithin Nested.grammar "né\u3000 7".toList 9 3
      ⟨.empty, .empty⟩).map (·.outcome)) = some (.matched "\u3000 " 7) := by
    decide +kernel
  obtain ⟨-, -, taken, left, hlongest, -, hrun⟩ :=
    Parser.characters_takeRuns (S := Nested) hrest ⟨.empty, .empty⟩ hfuel
  have hsome : taken ≠ [] := by
    rintro rfl
    rw [hrun] at houtcome
    cases houtcome
  rw [if_neg hsome] at hrun
  rw [hrun] at houtcome
  obtain ⟨hvalue, hnext⟩ := Outcome.matched.inj (Option.some_inj.mp houtcome)
  exact ⟨hrest, hfuel, taken, left, hlongest, hrun, hvalue, hnext⟩

end Descent
