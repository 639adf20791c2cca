import Descent.Parser.Combinators
import Descent.Proofs.Cells
import Descent.Proofs.Sequencing

/-!
# Completeness

What an action does with a text that remains at its offset: it takes some of it for a value, or it
refuses. Both say that the run ends, whatever the tracker and as long as the cells are faithful, so
that the operators can be gone through one by one.
-/

namespace Descent

variable {S : Signature} {α β : Type}

namespace Lexeme

variable {input text : Text} {offset : Nat}

theorem run_of_some (l : Lexeme α) (htext : Text.after? input offset = some text) {value : α}
    {count : Nat} (h : l.read? text = some (value, count)) (memory : Memory S) :
    l.run input offset memory =
      some (.quiet memory (.matched value (offset + Text.size (text.take count)))) := by
  unfold Lexeme.run
  simp only [htext, h]

theorem run_of_none (l : Lexeme α) (htext : Text.after? input offset = some text)
    (h : l.read? text = none) (memory : Memory S) :
    l.run input offset memory = some (.failing memory ⟨offset, l.expected⟩) := by
  unfold Lexeme.run
  simp only [htext, h]

theorem read?_literal_append (text : String) (rest : Text) :
    (literal text).read? (text.toList ++ rest) = some (text, text.length) := by
  simp [literal]

theorem read?_literal_eq_none {text : String} {rest : Text} (h : ¬ text.toList <+: rest) :
    (literal text).read? rest = none := by
  simp [literal, h]

end Lexeme

namespace Action

def Takes (grammar : Grammar S) (input : Text) (action : Action S α) (text : Text) (value : α)
    (rest : Text) : Prop :=
  ∀ ⦃offset : Nat⦄ ⦃memory : Memory S⦄, memory.cells.Faithful grammar →
    Text.after? input offset = some text →
      ∃ run next, action offset memory = some run ∧ run.outcome = .matched value next ∧
        Text.after? input next = some rest ∧ run.memory.cells.Faithful grammar

def Refuses (grammar : Grammar S) (input : Text) (action : Action S α) (text : Text) : Prop :=
  ∀ ⦃offset : Nat⦄ ⦃memory : Memory S⦄, memory.cells.Faithful grammar →
    Text.after? input offset = some text →
      ∃ run failure, action offset memory = some run ∧ run.outcome = .failed failure ∧
        run.memory.cells.Faithful grammar

variable {grammar : Grammar S} {input text middle rest : Text} {value : α} {action : Action S α}

theorem Takes.unique {value' : α} {rest' : Text}
    (ha : Takes grammar input action text value rest)
    (hb : Takes grammar input action text value' rest') {offset : Nat} {memory : Memory S}
    (hcells : memory.cells.Faithful grammar) (htext : Text.after? input offset = some text) :
    value = value' ∧ rest = rest' := by
  obtain ⟨run, next, hrun, hmatched, hrest, -⟩ := ha hcells htext
  obtain ⟨run', next', hrun', hmatched', hrest', -⟩ := hb hcells htext
  cases hrun.symm.trans hrun'
  cases hmatched.symm.trans hmatched'
  exact ⟨rfl, Option.some_inj.mp (hrest.symm.trans hrest')⟩

theorem takes_lexeme {l : Lexeme α} {count : Nat} (h : l.read? text = some (value, count)) :
    Takes grammar input (l.run input) text value (text.drop count) := by
  intro offset memory hcells htext
  refine ⟨_, _, l.run_of_some htext h memory, rfl, ?_, hcells⟩
  rw [← List.take_append_drop count text] at htext
  exact Text.after?_add htext

theorem refuses_lexeme {l : Lexeme α} (h : l.read? text = none) :
    Refuses grammar input (l.run input) text := by
  intro offset memory hcells htext
  exact ⟨_, _, l.run_of_none htext h memory, rfl, hcells⟩

theorem takes_literal (literal : String) (rest : Text) :
    Takes grammar input ((Lexeme.literal literal).run input) (literal.toList ++ rest) literal
      rest := by
  have hdrop : (literal.toList ++ rest).drop literal.length = rest := by
    rw [← String.length_toList, List.drop_left]
  have htakes : Takes grammar input ((Lexeme.literal literal).run input)
      (literal.toList ++ rest) literal ((literal.toList ++ rest).drop literal.length) :=
    takes_lexeme (Lexeme.read?_literal_append literal rest)
  rwa [hdrop] at htakes

theorem refuses_literal {literal : String} (h : ¬ literal.toList <+: text) :
    Refuses grammar input ((Lexeme.literal literal).run input) text :=
  refuses_lexeme (Lexeme.read?_literal_eq_none h)

theorem Takes.map (f : α → β) (ha : Takes grammar input action text value rest) :
    Takes grammar input (action.map f) text (f value) rest := by
  intro offset memory hcells htext
  obtain ⟨run, next, hrun, hmatched, hrest, hleft⟩ := ha hcells htext
  refine ⟨run.map f, next, ?_, ?_, hrest, hleft⟩
  · exact Option.map_eq_some_iff.mpr ⟨run, hrun, rfl⟩
  · exact congrArg (Outcome.map f) hmatched

theorem Refuses.map (f : α → β) (ha : Refuses grammar input action text) :
    Refuses grammar input (action.map f) text := by
  intro offset memory hcells htext
  obtain ⟨run, failure, hrun, hfailed, hleft⟩ := ha hcells htext
  refine ⟨run.map f, failure, ?_, ?_, hleft⟩
  · exact Option.map_eq_some_iff.mpr ⟨run, hrun, rfl⟩
  · exact congrArg (Outcome.map f) hfailed

section Bind

variable {next : α → Action S β} {result : β}

theorem Takes.bind (ha : Takes grammar input action text value middle)
    (hn : Takes grammar input (next value) middle result rest) :
    Takes grammar input (action.bind next) text result rest := by
  intro offset memory hcells htext
  obtain ⟨run, stop, hrun, hmatched, hmiddle, hleft⟩ := ha hcells htext
  obtain ⟨run', stop', hrun', hmatched', hrest, hleft'⟩ := hn hleft hmiddle
  refine ⟨run'.after run.events, stop', ?_, hmatched', hrest, hleft'⟩
  rw [bind_of_matched hrun hmatched, hrun', Option.map_some]

theorem Takes.bind_refuses (ha : Takes grammar input action text value middle)
    (hn : Refuses grammar input (next value) middle) :
    Refuses grammar input (action.bind next) text := by
  intro offset memory hcells htext
  obtain ⟨run, stop, hrun, hmatched, hmiddle, hleft⟩ := ha hcells htext
  obtain ⟨run', failure, hrun', hfailed, hleft'⟩ := hn hleft hmiddle
  refine ⟨run'.after run.events, failure, ?_, hfailed, hleft'⟩
  rw [bind_of_matched hrun hmatched, hrun', Option.map_some]

theorem Refuses.bind (ha : Refuses grammar input action text) :
    Refuses grammar input (action.bind next) text := by
  intro offset memory hcells htext
  obtain ⟨run, failure, hrun, hfailed, hleft⟩ := ha hcells htext
  exact ⟨_, failure, bind_of_failed hrun hfailed, rfl, hleft⟩

end Bind

section Choice

variable {second : Action S α}

theorem orElse_of_failed {offset : Nat} {memory : Memory S} {run : Run S α} {failure : Failure}
    (hrun : action offset memory = some run) (hfailed : run.outcome = .failed failure) :
    action.orElse second offset memory = (second offset run.memory).map (.after run.events) := by
  unfold Action.orElse
  rw [hrun, Option.bind_some, Run.orElse, hfailed]

theorem Takes.orElse (ha : Takes grammar input action text value rest) :
    Takes grammar input (action.orElse second) text value rest := by
  intro offset memory hcells htext
  obtain ⟨run, next, hrun, hmatched, hrest, hleft⟩ := ha hcells htext
  refine ⟨run, next, ?_, hmatched, hrest, hleft⟩
  unfold Action.orElse
  rw [hrun, Option.bind_some, Run.orElse]
  simp only [hmatched]

theorem Refuses.orElse_takes (ha : Refuses grammar input action text)
    (hs : Takes grammar input second text value rest) :
    Takes grammar input (action.orElse second) text value rest := by
  intro offset memory hcells htext
  obtain ⟨run, failure, hrun, hfailed, hleft⟩ := ha hcells htext
  obtain ⟨run', next, hrun', hmatched, hrest, hleft'⟩ := hs hleft htext
  refine ⟨run'.after run.events, next, ?_, hmatched, hrest, hleft'⟩
  rw [orElse_of_failed hrun hfailed, hrun', Option.map_some]

theorem Refuses.orElse (ha : Refuses grammar input action text)
    (hs : Refuses grammar input second text) :
    Refuses grammar input (action.orElse second) text := by
  intro offset memory hcells htext
  obtain ⟨run, failure, hrun, hfailed, hleft⟩ := ha hcells htext
  obtain ⟨run', failure', hrun', hfailed', hleft'⟩ := hs hleft htext
  refine ⟨run'.after run.events, failure', ?_, hfailed', hleft'⟩
  rw [orElse_of_failed hrun hfailed, hrun', Option.map_some]

end Choice

section Repetition

variable {last : Action S (List α)} {values : List α} {count : Nat}

/-- A refusal ends a repetition where its last round has ended. -/
theorem Refuses.optional (ha : Refuses grammar input action text) :
    Takes grammar input (action.optional last (count + 1)) text [] text := by
  intro offset memory hcells htext
  obtain ⟨run, failure, hrun, hfailed, hleft⟩ := ha hcells htext
  exact ⟨_, offset, optional_of_failed hrun hfailed count, rfl, htext, hleft⟩

theorem Takes.optional (ha : Takes grammar input action text value middle)
    (hmore : Takes grammar input (action.optional last count) middle values rest) :
    Takes grammar input (action.optional last (count + 1)) text (value :: values) rest := by
  intro offset memory hcells htext
  obtain ⟨run, stop, hrun, hmatched, hmiddle, hleft⟩ := ha hcells htext
  obtain ⟨run', stop', hrun', hmatched', hrest, hleft'⟩ := hmore hleft hmiddle
  refine ⟨(run'.map (value :: ·)).after run.events, stop', ?_, ?_, hrest, hleft'⟩
  · exact optional_succ_eq_some_iff.mpr ⟨run, hrun, .inl ⟨value, stop, run', hmatched, hrun', rfl⟩⟩
  · exact congrArg (Outcome.map (value :: ·)) hmatched'

theorem Takes.times_atLeast_zero {fuel : Nat}
    (ha : Takes grammar input (action.optional unfinished fuel) text values rest) :
    Takes grammar input (action.times (.atLeast 0) fuel) text values rest := by
  rw [Action.times_atLeast_zero]
  exact ha

end Repetition

theorem Takes.lazy {call : (α : Type) → Parser S α → Action S α} {rule : S.Rule}
    {result : S.Result rule}
    (hbody : Takes grammar input (call _ (grammar.body rule)) text result rest) (slot : Nat) :
    Takes grammar input (.lazy grammar call slot rule) text result rest := by
  intro offset memory hcells htext
  obtain ⟨hopened, hinner⟩ := hcells.opening slot rule
  obtain ⟨run, next, hrun, hmatched, hrest, hleft⟩ := @hbody offset
    { memory with cells := (memory.cells.opening grammar slot rule).inner } hinner htext
  rw [← hopened] at hrun
  refine ⟨run.closing memory.cells slot (memory.cells.opening grammar slot rule), next, ?_,
    hmatched, hrest, hcells.closing hleft slot rule⟩
  rw [lazy_eq]
  exact Option.map_eq_some_iff.mpr ⟨run, hrun, rfl⟩

section Parentheses

variable {call : (α : Type) → Parser S α → Action S α} {fuel slot : Nat} {rule : S.Rule}
  {result : S.Result rule}

theorem takes_inParentheses
    (hbody : Takes grammar input (call _ (grammar.body rule)) text result (')' :: rest)) :
    Takes grammar input
      ((((Parser.literal "(").andThen (.lazy slot rule)).skip (.literal ")")).action grammar input
        call fuel) ('(' :: text) result rest := by
  have hopen : Takes grammar input ((Lexeme.literal "(").run input) ('(' :: text) "(" text :=
    takes_literal "(" text
  have hclose : Takes grammar input ((Lexeme.literal ")").run input) (')' :: rest) ")" rest :=
    takes_literal ")" rest
  exact (hopen.bind (hbody.lazy slot)).bind (hclose.map fun _ => result)

theorem refuses_unopened (h : text.head? ≠ some '(') :
    Refuses grammar input
      ((((Parser.literal "(").andThen (.lazy slot rule)).skip (.literal ")")).action grammar input
        call fuel) text := by
  have hopen : Refuses grammar input ((Lexeme.literal "(").run input) text := by
    apply refuses_literal
    rintro ⟨rest, rfl⟩
    exact h rfl
  exact hopen.bind.bind

theorem refuses_unclosed
    (hbody : Takes grammar input (call _ (grammar.body rule)) text result rest)
    (h : rest.head? ≠ some ')') :
    Refuses grammar input
      ((((Parser.literal "(").andThen (.lazy slot rule)).skip (.literal ")")).action grammar input
        call fuel) ('(' :: text) := by
  have hopen : Takes grammar input ((Lexeme.literal "(").run input) ('(' :: text) "(" text :=
    takes_literal "(" text
  have hclose : Refuses grammar input ((Lexeme.literal ")").run input) rest := by
    apply refuses_literal
    rintro ⟨others, rfl⟩
    exact h rfl
  exact (hopen.bind (hbody.lazy slot)).bind_refuses (hclose.map fun _ => result)

end Parentheses

end Action

end Descent
