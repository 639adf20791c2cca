import Descent.Proofs.Completeness
import Descent.Proofs.Leftover
import Descent.Proofs.Sequence

/-!
# Rows of literals

Literals in a row read just the text that is written by putting them one after another. Any other
input is refused behind the longest beginning that it shares with this text, as far as whole
literals go; the error names the literal that does not follow there, or the end of the input if all
of them have been read.
-/

namespace Descent

variable {S : Signature} {α : Type}

namespace Text

def join (texts : List String) : Text :=
  texts.flatMap String.toList

@[simp]
theorem join_nil : join [] = [] := rfl

@[simp]
theorem join_cons (text : String) (texts : List String) :
    join (text :: texts) = text.toList ++ join texts := rfl

@[simp]
theorem join_append (before after : List String) :
    join (before ++ after) = join before ++ join after :=
  List.flatMap_append

/-- The input begins with so many of the texts, one after another, and not with more of them. -/
structure BeginsWith (input : Text) (texts : List String) (count : Nat) : Prop where
  le_length : count ≤ texts.length
  begins : join (texts.take count) <+: input
  le : ∀ n ≤ texts.length, join (texts.take n) <+: input → n ≤ count

theorem beginsWith_length {input : Text} {texts : List String} (h : join texts <+: input) :
    input.BeginsWith texts texts.length := by
  refine ⟨Nat.le_refl _, ?_, fun n hn _ => hn⟩
  rwa [List.take_length]

theorem beginsWith_of_not_begins {before after : List String} {text : String} {rest : Text}
    (h : ¬ text.toList <+: rest) :
    (join before ++ rest).BeginsWith (before ++ text :: after) before.length := by
  refine ⟨by simp, ?_, ?_⟩
  · rw [List.take_left]
    exact List.prefix_append _ _
  · intro n hn hbegins
    apply Nat.le_of_not_lt
    intro hlt
    obtain ⟨more, rfl⟩ : ∃ more, n = before.length + (more + 1) := ⟨n - before.length - 1, by omega⟩
    rw [List.take_length_add_append, List.take_succ_cons, join_append, join_cons,
      List.prefix_append_right_inj] at hbegins
    exact h ((List.prefix_append _ _).trans hbegins)

/-- Either all of the texts stand at the beginning, or there is a first one that does not follow. -/
theorem exists_join (texts : List String) (input : Text) :
    (∃ rest, input = join texts ++ rest) ∨
      ∃ before text after rest, texts = before ++ text :: after ∧ input = join before ++ rest ∧
        ¬ text.toList <+: rest := by
  induction texts generalizing input with
  | nil => exact .inl ⟨input, rfl⟩
  | cons text texts ih =>
    by_cases hbegins : text.toList <+: input
    · obtain ⟨others, rfl⟩ := hbegins
      rcases ih others with ⟨rest, rfl⟩ | ⟨before, next, after, rest, rfl, rfl, hnext⟩
      · exact .inl ⟨rest, by simp⟩
      · exact .inr ⟨text :: before, next, after, rest, rfl, by simp, hnext⟩
    · exact .inr ⟨[], text, texts, input, rfl, rfl, hbegins⟩

end Text

namespace Parser

variable {grammar : Grammar S} {input rest : Text} {offset : Nat}

theorem runWithin_literal_of_append {text : String}
    (hrest : Text.after? input offset = some (text.toList ++ rest)) (fuel : Nat)
    (memory : Memory S) :
    (literal text).runWithin grammar input (fuel + 1) offset memory =
      some (.quiet memory (.matched text (offset + Text.size text.toList))) := by
  have htaken : (text.toList ++ rest).take text.length = text.toList := by
    rw [← String.length_toList, List.take_left]
  have hrun :=
    (Lexeme.literal text).run_of_some hrest (Lexeme.read?_literal_append text rest) memory
  rwa [htaken] at hrun

theorem runWithin_literal_of_not_begins {text : String}
    (hrest : Text.after? input offset = some rest) (h : ¬ text.toList <+: rest) (fuel : Nat)
    (memory : Memory S) :
    (literal text).runWithin grammar input (fuel + 1) offset memory =
      some (.failing memory ⟨offset, s!"'{text}'"⟩) :=
  (Lexeme.literal text).run_of_none hrest (Lexeme.read?_literal_eq_none h) memory

theorem runWithin_literals_of_append {texts : List String}
    (hrest : Text.after? input offset = some (Text.join texts ++ rest)) (fuel : Nat)
    (memory : Memory S) :
    (sequence (texts.map literal)).runWithin grammar input (fuel + 1) offset memory =
      some (.quiet memory (.matched texts (offset + Text.size (Text.join texts)))) := by
  induction texts generalizing offset with
  | nil => rfl
  | cons text texts ih =>
    rw [Text.join_cons, List.append_assoc] at hrest
    have hothers := ih (Text.after?_add hrest)
    rw [List.map_cons, runWithin_sequence_cons,
      Action.bind_of_matched (runWithin_literal_of_append hrest fuel memory) rfl]
    unfold Action.map
    dsimp only [Run.quiet] at hothers ⊢
    rw [hothers, Text.join_cons, Text.size_append, ← Nat.add_assoc]
    rfl

/-- Where the first literal that does not follow fails, the whole row fails. -/
theorem runWithin_literals_of_not_begins {before after : List String} {text : String}
    (hrest : Text.after? input offset = some (Text.join before ++ rest))
    (h : ¬ text.toList <+: rest) (fuel : Nat) (memory : Memory S) :
    (sequence ((before ++ text :: after).map literal)).runWithin grammar input (fuel + 1) offset
        memory =
      some (.failing memory ⟨offset + Text.size (Text.join before), s!"'{text}'"⟩) := by
  rw [List.map_append, List.map_cons, runWithin_sequence_append]
  unfold Action.append
  rw [Action.bind_of_matched (runWithin_literals_of_append hrest fuel memory) rfl,
    runWithin_sequence_cons]
  unfold Action.map
  rw [Run.quiet, Action.bind_of_failed
    (runWithin_literal_of_not_begins (Text.after?_add hrest) h fuel memory) rfl]
  rfl

end Parser

namespace Parse

variable {input : Text} {memory : Memory S}

theorem conclude_of_isBoundary {last : Failure} (hlast : memory.tracker.failure? = some last)
    (hboundary : input.IsBoundary last.offset) (failure : Failure)
    (events : List (Event S.Rule)) :
    ∃ error, (conclude input failure events memory : Parse S α).verdict = .rejected error ∧
      error.failure = last := by
  obtain ⟨error, hat⟩ := ParseError.exists_at? hboundary
  refine ⟨error, ?_, ParseError.failure_of_at? hat⟩
  unfold conclude
  rw [hlast, Option.getD_some, hat]

theorem ofRun_failing (cells : Cells S) (failure : Failure)
    (hboundary : input.IsBoundary failure.offset) :
    ∃ error, (ofRun input (.failing (.fresh cells) failure) : Parse S α).verdict =
      .rejected error ∧ error.failure = failure :=
  conclude_of_isBoundary rfl hboundary _ _

theorem ofRun_quiet (cells : Cells S) (value : α) {next : Nat} (hboundary : input.IsBoundary next)
    (hlt : next < Text.size input) :
    ∃ error, (ofRun input (.quiet (.fresh cells) (.matched value next)) : Parse S α).verdict =
      .rejected error ∧ error.failure = ⟨next, "EOF"⟩ := by
  have hend : Text.isAtEnd input next = false := by simpa [Text.isAtEnd] using hlt
  unfold ofRun Run.quiet
  simp only [hend, Bool.false_eq_true, if_false]
  exact conclude_of_isBoundary rfl hboundary _ _

end Parse

namespace Parser

variable {grammar : Grammar S} {input rest : Text}

/-- A run that is the same with any fuel is the one that the entry point sees. -/
theorem parse_eq_ofRun {p : Parser S α} {cells : Cells S} {run : Run S α}
    (h : ∀ fuel, p.runWithin grammar input (fuel + 1) 0 (.fresh cells) = some run) :
    p.parse grammar input cells = some (.ofRun input run) := by
  have hfuel : fuelFor input = fuelFor input - 1 + 1 := by
    unfold fuelFor
    omega
  unfold parse parseWithin
  rw [hfuel, h]
  rfl

theorem literals_parse_join (grammar : Grammar S) (texts : List String) (cells : Cells S) :
    ∃ parse, (sequence (texts.map literal)).parse grammar (Text.join texts) cells = some parse ∧
      parse.verdict = .accepted texts := by
  have hstart : Text.after? (Text.join texts) 0 = some (Text.join texts ++ []) := by simp
  refine ⟨_, parse_eq_ofRun fun fuel => runWithin_literals_of_append hstart fuel _, ?_⟩
  apply Parse.ofRun_of_end
  rw [Nat.zero_add]
  rfl

theorem literals_parse_leftover (grammar : Grammar S) (texts : List String) (c : Char)
    (rest : Text) (cells : Cells S) :
    ∃ parse, (sequence (texts.map literal)).parse grammar (Text.join texts ++ c :: rest) cells =
        some parse ∧
      ∃ error, parse.verdict = .rejected error ∧
        error.failure = ⟨Text.size (Text.join texts), "EOF"⟩ := by
  have hstart := Text.after?_zero (Text.join texts ++ c :: rest)
  have hlt : Text.size (Text.join texts) < Text.size (Text.join texts ++ c :: rest) := by
    rw [Text.size_append, Text.size_cons]
    have := c.utf8Size_pos
    omega
  refine ⟨_, parse_eq_ofRun fun fuel => runWithin_literals_of_append hstart fuel _, ?_⟩
  rw [Nat.zero_add]
  exact Parse.ofRun_quiet cells texts ⟨Text.join texts, c :: rest, rfl, rfl⟩ hlt

theorem literals_parse_stopped (grammar : Grammar S) (before after : List String) {text : String}
    (h : ¬ text.toList <+: rest) (cells : Cells S) :
    ∃ parse, (sequence ((before ++ text :: after).map literal)).parse grammar
        (Text.join before ++ rest) cells = some parse ∧
      ∃ error, parse.verdict = .rejected error ∧
        error.failure = ⟨Text.size (Text.join before), s!"'{text}'"⟩ := by
  have hstart := Text.after?_zero (Text.join before ++ rest)
  refine ⟨_, parse_eq_ofRun fun fuel => runWithin_literals_of_not_begins hstart h fuel _, ?_⟩
  rw [Nat.zero_add]
  exact Parse.ofRun_failing cells _ ⟨Text.join before, rest, rfl, rfl⟩

theorem sequence_literals_parse (grammar : Grammar S) (texts : List String) (input : Text)
    (cells : Cells S) :
    ∃ parse, (sequence (texts.map literal)).parse grammar input cells = some parse ∧
      (parse.verdict = .accepted texts ↔ input = Text.join texts) ∧
      (input ≠ Text.join texts → ∃ count error, input.BeginsWith texts count ∧
        parse.verdict = .rejected error ∧
        error.offset = Text.size (Text.join (texts.take count)) ∧
        (∀ h : count < texts.length, error.expected = s!"'{texts[count]}'") ∧
        (count = texts.length → error.expected = "EOF")) := by
  rcases Text.exists_join texts input with ⟨rest, rfl⟩ |
    ⟨before, text, after, rest, rfl, rfl, hfollows⟩
  · cases rest with
    | nil =>
      rw [List.append_nil]
      obtain ⟨parse, hparse, haccepted⟩ := literals_parse_join grammar texts cells
      exact ⟨parse, hparse, iff_of_true haccepted rfl, fun hne => absurd rfl hne⟩
    | cons c rest =>
      obtain ⟨parse, hparse, error, hrejected, hfailure⟩ :=
        literals_parse_leftover grammar texts c rest cells
      refine ⟨parse, hparse, ?_, fun _ => ⟨texts.length, error, ?_, hrejected, ?_, ?_, ?_⟩⟩
      · rw [hrejected]
        exact iff_of_false nofun (by simp)
      · exact Text.beginsWith_length (List.prefix_append _ _)
      · rw [List.take_length]
        exact congrArg Failure.offset hfailure
      · intro hlt
        exact absurd hlt (Nat.lt_irrefl _)
      · intro _
        exact congrArg Failure.expected hfailure
  · obtain ⟨parse, hparse, error, hrejected, hfailure⟩ :=
      literals_parse_stopped grammar before after hfollows cells
    have hne : Text.join before ++ rest ≠ Text.join (before ++ text :: after) := by
      rw [Text.join_append, Text.join_cons]
      intro heq
      rw [List.append_cancel_left heq] at hfollows
      exact hfollows (List.prefix_append _ _)
    refine ⟨parse, hparse, ?_, fun _ => ⟨before.length, error, ?_, hrejected, ?_, ?_, ?_⟩⟩
    · rw [hrejected]
      exact iff_of_false nofun hne
    · exact Text.beginsWith_of_not_begins hfollows
    · rw [List.take_left]
      exact congrArg Failure.offset hfailure
    · intro _
      rw [List.getElem_append_right (Nat.le_refl _)]
      simp only [Nat.sub_self, List.getElem_cons_zero]
      exact congrArg Failure.expected hfailure
    · intro hlength
      simp at hlength

end Parser

end Descent
