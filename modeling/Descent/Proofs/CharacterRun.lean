import Descent.Parser.Combinators
import Descent.Proofs.Completeness
import Descent.Proofs.Preference
import Mathlib.Control.Monad.Basic

/-!
# Runs of characters

What a pattern takes that asks for characters of one class, as many as there are: it is greedy, so
it takes them up to the first character that is no member, and never gives one back.
-/

namespace Descent

namespace Regex

variable {members : CharClass}

/-- The members of a class at the beginning of a text, as many as there are. -/
def Tree.run (least : Nat) (members : CharClass) : Tree :=
  .concat (.assertion .textStart)
    (.repetition { least, most := none, many := true } (.one members))

/-- A loop of the states 1 and 2, with an entry at either of them. -/
def Program.ofRun (members : CharClass) (entry : Nat) : Program where
  states := #[.accept, .fork 2 0, .one members 1, .assertion .textStart entry]
  start := 3

namespace Program

@[simp]
theorem ofRun_start (members : CharClass) (entry : Nat) : (ofRun members entry).start = 3 :=
  rfl

theorem ofTree_run_zero (hmembers : members ≠ .empty) :
    ofTree (.run 0 members) = ofRun members 1 := by
  have hconsumes : (Tree.one members).consumes = true := by
    simp [Tree.consumes, Tree.shortest?, hmembers]
  simp only [ofTree, Tree.run, Draft.ofTree, Draft.repetition, hconsumes]
  rfl

theorem ofTree_run_one : ofTree (.run 1 members) = ofRun members 2 :=
  rfl

section Explore

variable {program : Program} {place : Place} {seen : StateSet} {state next second : Nat}
  {waiting : List (CharClass × Thread)} {trail : Trail} {threads : List Thread}

theorem explore_assertion {a : Assertion}
    (hstate : program.states[state]? = some (.assertion a next))
    (hseen : seen.contains state = false) (hplace : place.satisfies a = true) :
    program.explore place seen waiting ({ state, trail } :: threads) =
      program.explore place (seen.insert state) waiting ({ state := next, trail } :: threads) := by
  rw [explore_silent hstate rfl hseen, State.silent, if_pos hplace]
  rfl

theorem explore_fork (hstate : program.states[state]? = some (.fork next second))
    (hseen : seen.contains state = false) :
    program.explore place seen waiting ({ state, trail } :: threads) =
      program.explore place (seen.insert state) waiting
        ({ state := next, trail } :: { state := second, trail } :: threads) :=
  explore_silent hstate rfl hseen

end Explore

section Run

variable {entry : Nat} {place : Place} {seen : StateSet}

/-- Another round is preferred to the end of the match. -/
theorem explore_loop (hseen : ∀ state < 3, seen.contains state = false) :
    (ofRun members entry).explore place seen [] [{ state := 1, trail := [] }] =
      { waiting := [(members, { state := 1, trail := [] })], accepted := some [] } := by
  have hfork : seen.contains 1 = false := hseen 1 (by decide)
  have hmember : (seen.insert 1).contains 2 = false := by simp [hseen 2]
  have haccept : ((seen.insert 1).insert 2).contains 0 = false := by simp [hseen 0]
  rw [explore_fork rfl hfork, explore_one rfl hmember, explore_accept rfl haccept]
  rfl

theorem explore_member (hseen : seen.contains 2 = false) :
    (ofRun members entry).explore place seen [] [{ state := 2, trail := [] }] =
      { waiting := [(members, { state := 1, trail := [] })], accepted := none } := by
  rw [explore_one rfl hseen, explore]
  rfl

theorem explore_start {index : Nat} {rest : Text} :
    (ofRun members entry).explore { index, before := none, rest } ∅ []
        [{ state := 3, trail := [] }] =
      (ofRun members entry).explore { index, before := none, rest } ((∅ : StateSet).insert 3) []
        [{ state := entry, trail := [] }] :=
  explore_assertion rfl (by simp) rfl

/-- Each round takes one member and comes back to the same state, where the match may also end. -/
theorem run_loop (index : Nat) (before : Option Char) (rest : Text) (best : Option Finish) :
    (ofRun members entry).run { index, before, rest } [{ state := 1, trail := [] }] best =
      some { stop := index + (rest.takeWhile members.contains).length, trail := [] } := by
  induction rest generalizing index before best with
  | nil =>
    rw [run, explore_loop (by simp)]
    rfl
  | cons c rest ih =>
    rw [run, explore_loop (by simp)]
    by_cases h : members.contains c = true
    · simp [Frontier.step, Place.advance, h, ih]
      omega
    · simp [Frontier.step, h]

theorem run_start_loop (text : Text) :
    (ofRun members 1).run { index := 0, before := none, rest := text }
        [{ state := 3, trail := [] }] none =
      some { stop := (text.takeWhile members.contains).length, trail := [] } := by
  have hseen : ∀ state < 3, ((∅ : StateSet).insert 3).contains state = false := by
    intro state hstate
    simp [Nat.ne_of_gt hstate]
  rw [run, explore_start, explore_loop hseen]
  cases text with
  | nil => rfl
  | cons c rest =>
    by_cases h : members.contains c = true
    · simp [Frontier.step, Place.advance, h, run_loop]
      omega
    · simp [Frontier.step, h]

theorem run_start_member (text : Text) :
    (ofRun members 2).run { index := 0, before := none, rest := text }
        [{ state := 3, trail := [] }] none =
      if text.takeWhile members.contains = [] then none
      else some { stop := (text.takeWhile members.contains).length, trail := [] } := by
  rw [run, explore_start, explore_member (by simp)]
  cases text with
  | nil => rfl
  | cons c rest =>
    by_cases h : members.contains c = true
    · simp [Frontier.step, Place.advance, h, run_loop]
      omega
    · simp [Frontier.step, h]

end Run

end Program

theorem compile_eq_ofTree {source : String} {tree : Tree}
    (htree : Tree.ofSource source.toList = .ok tree) (hfits : Weight.fits tree = true) :
    compile source = .ok (ofTree tree) := by
  unfold compile
  rw [htree]
  exact if_pos hfits

theorem find?_run {least : Nat} {program : Program}
    (hprogram : Program.ofTree (.run least members) = program) (text : Text) :
    (ofTree (.run least members)).find? text =
      (program.run { index := 0, before := none, rest := text }
        [{ state := program.start, trail := [] }] none).map fun finish =>
          { whole := { start := 0, stop := finish.stop }, trail := finish.trail } := by
  subst hprogram
  rfl

end Regex

open Regex

theorem Text.take_length_takeWhile (p : Char → Bool) (text : Text) :
    text.take (text.takeWhile p).length = text.takeWhile p :=
  (List.prefix_iff_eq_take.mp (List.takeWhile_prefix p)).symm

namespace Pattern

variable {members : CharClass}

/-- The pattern of a source that asks for a run of characters. -/
def ofRun (source : String) (least : Nat) (members : CharClass) : Pattern :=
  .ofCompiled .programs source (.ofTree (.run least members))

theorem read?_ofRun_zero (hmembers : members ≠ .empty) (source : String) (text : Text) :
    (ofRun source 0 members).read? 0 text =
      some (String.ofList (text.takeWhile members.contains),
        (text.takeWhile members.contains).length) := by
  simp only [read?, readWhole?, ofRun, ofCompiled, Engine.programs,
    find?_run (Program.ofTree_run_zero hmembers)]
  simp [Program.ofRun_start, Program.run_start_loop, Span.text, Text.take_length_takeWhile]

theorem read?_ofRun_one (source : String) (text : Text) :
    (ofRun source 1 members).read? 0 text =
      if text.takeWhile members.contains = [] then none
      else some (String.ofList (text.takeWhile members.contains),
        (text.takeWhile members.contains).length) := by
  simp only [read?, readWhole?, ofRun, ofCompiled, Engine.programs,
    find?_run Program.ofTree_run_one, Program.ofRun_start, Program.run_start_member]
  by_cases hnone : text.takeWhile members.contains = []
  · simp [hnone]
  · simp [hnone, Span.text, Text.take_length_takeWhile]

/-- The source has to be an expression on its own too. -/
theorem compile_eq_ofRun {source : String} {alone : Tree} {least : Nat}
    (halone : Tree.ofSource source.toList = .ok alone) (hfits : Weight.fits alone = true)
    (htied : Tree.ofSource (anchored source).toList = .ok (.run least members))
    (htiedFits : Weight.fits (.run least members) = true) :
    compile source = .ok (ofRun source least members) := by
  simp only [compile, compileBy, Engine.programs, Regex.compile_eq_ofTree halone hfits,
    Regex.compile_eq_ofTree htied htiedFits]
  rfl

end Pattern

theorem Regex.CharClass.whiteSpace_ne_empty : CharClass.whiteSpace .unicode ≠ .empty := by
  decide

theorem Pattern.compile_optWhiteSpace :
    compile "\\s*" = .ok (ofRun "\\s*" 0 (.whiteSpace .unicode)) := by
  have halone : Tree.ofSource "\\s*".toList = .ok (.repetition
      { least := 0, most := none, many := true } (.one (.whiteSpace .unicode))) := by
    decide +kernel
  exact compile_eq_ofRun halone (by decide +kernel) (by decide +kernel) (by decide +kernel)

theorem Text.drop_length_takeWhile (p : Char → Bool) (text : Text) :
    text.drop (text.takeWhile p).length = text.dropWhile p := by
  induction text with
  | nil => rfl
  | cons c text ih =>
    by_cases h : p c = true
    · simpa [h] using ih
    · simp [h]

namespace Action

variable {S : Signature} {grammar : Grammar S} {input : Text} {members : CharClass}

theorem takes_run_zero (hmembers : members ≠ .empty) (source : String) (text : Text) :
    Takes grammar input ((Lexeme.pattern (.ofRun source 0 members) 0).run input) text
      (String.ofList (text.takeWhile members.contains)) (text.dropWhile members.contains) := by
  rw [← Text.drop_length_takeWhile]
  exact takes_lexeme (Pattern.read?_ofRun_zero hmembers source text)

theorem takes_run_one (source : String) {text : Text} (h : text.takeWhile members.contains ≠ []) :
    Takes grammar input ((Lexeme.pattern (.ofRun source 1 members) 0).run input) text
      (String.ofList (text.takeWhile members.contains)) (text.dropWhile members.contains) := by
  rw [← Text.drop_length_takeWhile]
  exact takes_lexeme ((Pattern.read?_ofRun_one source text).trans (if_neg h))

theorem refuses_run_one (source : String) {text : Text}
    (h : text.takeWhile members.contains = []) :
    Refuses grammar input ((Lexeme.pattern (.ofRun source 1 members) 0).run input) text :=
  refuses_lexeme ((Pattern.read?_ofRun_one source text).trans (if_pos h))

end Action

end Descent
