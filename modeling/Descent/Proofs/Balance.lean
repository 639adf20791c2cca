import Descent.Proofs.Completeness
import Descent.Proofs.Leftover

/-!
# Balanced nests

A nest is written as opening parentheses with as many closing ones behind them. At a parenthesis
that is never closed, the level that opened it falls back to the empty nest; so do all levels around
it that find no closing parenthesis then.
-/

namespace Descent

namespace Nested

def written (depth : Nat) : Text :=
  List.replicate depth '(' ++ List.replicate depth ')'

theorem written_succ_append (depth : Nat) (rest : Text) :
    written (depth + 1) ++ rest = '(' :: (written depth ++ ')' :: rest) := by
  unfold written
  rw [List.replicate_succ (a := '('), List.replicate_succ' (a := ')')]
  simp

section Reading

variable {input text rest : Text} {fuel depth : Nat}

theorem takes_nest_of_refuses
    (h : Action.Refuses grammar input (inParentheses.runWithin grammar input (fuel + 1)) text) :
    Action.Takes grammar input (nest.runWithin grammar input (fuel + 1)) text (0 : Nat) text := by
  have hempty : Action.Takes grammar input ((Lexeme.literal "").run input) text "" text :=
    Action.takes_literal "" text
  exact h.orElse_takes (hempty.map fun _ => 0)

theorem takes_nest_of_unopened (h : text.head? ≠ some '(') :
    Action.Takes grammar input (nest.runWithin grammar input (fuel + 1)) text (0 : Nat) text :=
  takes_nest_of_refuses (Action.Refuses.map _ (Action.refuses_unopened h))

/-- A level that finds its closing parenthesis is one deeper than what it has around. -/
theorem takes_nest_succ
    (h : Action.Takes grammar input (nest.runWithin grammar input fuel) text depth (')' :: rest)) :
    Action.Takes grammar input (nest.runWithin grammar input (fuel + 1)) ('(' :: text)
      (depth + 1 : Nat) rest :=
  Action.Takes.orElse (Action.Takes.map _ (Action.takes_inParentheses h))

/-- A level that does not find it gives up all that it has around, too. -/
theorem takes_nest_of_unclosed
    (h : Action.Takes grammar input (nest.runWithin grammar input fuel) text depth rest)
    (hrest : rest.head? ≠ some ')') :
    Action.Takes grammar input (nest.runWithin grammar input (fuel + 1)) ('(' :: text) (0 : Nat)
      ('(' :: text) :=
  takes_nest_of_refuses (Action.Refuses.map _ (Action.refuses_unclosed h hrest))

theorem takes_nest_written (hfuel : depth < fuel) (hrest : rest.head? ≠ some '(') :
    Action.Takes grammar input (nest.runWithin grammar input fuel) (written depth ++ rest) depth
      rest := by
  induction depth generalizing fuel rest with
  | zero =>
    obtain ⟨fuel, rfl⟩ := Nat.exists_eq_add_of_lt hfuel
    exact takes_nest_of_unopened hrest
  | succ depth ih =>
    obtain ⟨fuel, rfl⟩ : ∃ n, fuel = n + 1 := ⟨fuel - 1, by omega⟩
    rw [written_succ_append]
    apply takes_nest_succ
    exact ih (by omega) (by simp)

/-- Every text is read, and what is read of it is a balanced beginning. -/
theorem exists_takes_nest (text : Text) (hfuel : text.length < fuel) :
    ∃ depth rest, text = written depth ++ rest ∧
      Action.Takes grammar input (nest.runWithin grammar input fuel) text depth rest := by
  induction text generalizing fuel with
  | nil =>
    obtain ⟨fuel, rfl⟩ := Nat.exists_eq_add_of_lt hfuel
    exact ⟨0, [], rfl, takes_nest_of_unopened (by simp)⟩
  | cons c text ih =>
    rw [List.length_cons] at hfuel
    obtain ⟨fuel, rfl⟩ : ∃ n, fuel = n + 1 := ⟨fuel - 1, by omega⟩
    by_cases hopen : c = '('
    · subst hopen
      obtain ⟨depth, rest, htext, htakes⟩ := ih (Nat.lt_of_succ_lt_succ hfuel)
      by_cases hclose : rest.head? = some ')'
      · obtain ⟨rest, rfl⟩ := List.head?_eq_some_iff.mp hclose
        refine ⟨depth + 1, rest, ?_, takes_nest_succ htakes⟩
        rw [written_succ_append, htext]
      · exact ⟨0, '(' :: text, rfl, takes_nest_of_unclosed htakes hclose⟩
    · refine ⟨0, c :: text, rfl, takes_nest_of_unopened ?_⟩
      simpa using hopen

end Reading

theorem eq_written_iff {text rest : Text} {depth fuel : Nat}
    (hfuel : text.length < fuel) (htext : text = written depth ++ rest)
    (h : Action.Takes grammar text (nest.runWithin grammar text fuel) text depth rest) (n : Nat) :
    text = written n ↔ depth = n ∧ rest = [] := by
  constructor
  · intro hwritten
    have hlt : n < fuel := by
      apply Nat.lt_of_le_of_lt _ hfuel
      rw [hwritten, written, List.length_append, List.length_replicate]
      omega
    have hall : Action.Takes grammar text (nest.runWithin grammar text fuel) (written n ++ []) n
        [] := takes_nest_written hlt (by simp)
    rw [List.append_nil, ← hwritten] at hall
    have hcells : (Memory.fresh (.empty : Cells Nested)).cells.Faithful grammar :=
      Cells.faithful_empty
    exact h.unique hall hcells (Text.after?_zero text)
  · rintro ⟨rfl, rfl⟩
    rw [htext, List.append_nil]

theorem exists_parse_nest (text : Text) :
    ∃ parse depth, ∃ rest : Text, nest.parse grammar text .empty = some parse ∧
      (∀ n, text = written n ↔ depth = n ∧ rest = []) ∧
      (rest = [] → parse.verdict = .accepted depth) ∧
      (rest ≠ [] → ∃ error, parse.verdict = .rejected error) := by
  have hfuel : text.length < Parser.fuelFor text := by
    unfold Parser.fuelFor
    omega
  obtain ⟨depth, rest, htext, htakes⟩ := @exists_takes_nest text _ text hfuel
  obtain ⟨run, next, hrun, hmatched, hrest, -⟩ :=
    @htakes 0 (.fresh .empty) Cells.faithful_empty (Text.after?_zero text)
  have hparse : nest.parse grammar text .empty = some (.ofRun text run) :=
    Option.map_eq_some_iff.mpr ⟨run, hrun, rfl⟩
  obtain ⟨before, hinput, hsize⟩ := Text.after?_eq_some_iff.mp hrest
  refine ⟨.ofRun text run, depth, rest, hparse, eq_written_iff hfuel htext htakes, ?_, ?_⟩
  · rintro rfl
    rw [List.append_nil] at hinput
    rw [← hsize, ← hinput] at hmatched
    exact Parse.ofRun_of_end hmatched
  · intro hne
    have hlt : next < Text.size text := by
      have hpos : Text.size rest ≠ 0 := fun hzero => hne (Text.size_eq_zero_iff.mp hzero)
      rw [hinput, Text.size_append]
      omega
    have hends := Parser.parseWithin_ends isPlain_grammar isPlain_nest Cells.faithful_empty hparse
    obtain ⟨error, hrejected, -⟩ := Parse.exists_leftover hends hmatched hlt
    exact ⟨error, hrejected⟩

theorem nest_parse_balanced (text : Text) :
    ∃ parse, nest.parse grammar text .empty = some parse ∧
      (∀ depth : Nat, parse.verdict = .accepted depth ↔
        text = List.replicate depth '(' ++ List.replicate depth ')') ∧
      ((∀ depth : Nat, text ≠ List.replicate depth '(' ++ List.replicate depth ')') →
        ∃ error, parse.verdict = .rejected error) := by
  obtain ⟨parse, depth, rest, hparse, hwritten, haccepted, hrejected⟩ := exists_parse_nest text
  refine ⟨parse, hparse, ?_, ?_⟩
  · intro n
    apply Iff.trans _ (hwritten n).symm
    by_cases hrest : rest = []
    · simp [haccepted hrest, hrest]
    · obtain ⟨error, herror⟩ := hrejected hrest
      simp [herror, hrest]
  · intro hne
    apply hrejected
    intro hrest
    exact hne depth ((hwritten depth).mpr ⟨rfl, hrest⟩)

end Nested

end Descent
