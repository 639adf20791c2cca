import Descent.Proofs.Cells
import Descent.Proofs.Chronicle
import Descent.Proofs.Composed
import Descent.Proofs.Tracker

/-!
# Courses

A course is a run seen from outside: where it starts and with which tracker, how it ends, what is
observed and which tracker it leaves; the value and the cells are left aside. The constructors say
all that a run can do, whatever the parser. Every run of a composed parser takes a course
(`Parser.runWithin_course`), so a property of runs is an induction over courses.
-/

namespace Descent

variable {S : Signature}

/-- `Course grammar input Allowed start before outcome events after`. -/
inductive Course (grammar : Grammar S) (input : Text) (Allowed : Kind) :
    Nat → Tracker → Outcome Unit → List (Event S.Rule) → Tracker → Prop where
  | stay (start : Nat) (t : Tracker) :
    Course grammar input Allowed start t (.matched () start) [] t
  | take (a taken rest : Text) (t : Tracker) (split : input = a ++ taken ++ rest) :
    Course grammar input Allowed (Text.size a) t (.matched () (Text.size (a ++ taken))) [] t
  | misplaced (start : Nat) (t : Tracker) (outside : ¬ Text.IsBoundary input start) :
    Course grammar input Allowed start t (.faulted .badOffset) [] t
  | fail (start : Nat) (t : Tracker) (expected : String) :
    Course grammar input Allowed start t (.failed ⟨start, expected⟩)
      (t.observe ⟨start, expected⟩).1 (t.report ⟨start, expected⟩)
  | fault (start : Nat) (t : Tracker) (cause : Fault) (deliberate : cause ≠ .badOffset) :
    Course grammar input Allowed start t (.faulted cause) [] t
  | custom {α : Type} (start : Nat) (t : Tracker) (act : Act α) (allowed : Allowed α act) :
    Course grammar input Allowed start t (act input t start).2.shape
      (t.observeAll (act input t start).1).1 (t.reportAll (act input t start).1)
  | goOn {start next : Nat} {t t' t'' : Tracker} {outcome : Outcome Unit}
      {first rest : List (Event S.Rule)}
      (matched : Course grammar input Allowed start t (.matched () next) first t')
      (then_ : Course grammar input Allowed next t' outcome rest t'') :
    Course grammar input Allowed start t outcome (first ++ rest) t''
  | goBack {start : Nat} {t t' t'' : Tracker} {failure : Failure} {outcome : Outcome Unit}
      {first rest : List (Event S.Rule)}
      (failed : Course grammar input Allowed start t (.failed failure) first t')
      (instead : Course grammar input Allowed start t' outcome rest t'') :
    Course grammar input Allowed start t outcome (first ++ rest) t''
  | construct {start : Nat} {t t' : Tracker} {outcome : Outcome Unit}
      {events : List (Event S.Rule)} (rule : S.Rule)
      (run : Course grammar input Allowed start t outcome events t') :
    Course grammar input Allowed start t outcome
      (.constructed rule :: (grammar.foreign rule).map .furthest ++ events) t'
  | left {start next : Nat} {t t' : Tracker} {events : List (Event S.Rule)} (probe : String)
      (run : Course grammar input Allowed start t (.matched () next) events t') :
    Course grammar input Allowed start t (.matched () next)
      (.entered probe start :: events ++ [.left probe next]) t'
  | missed {start : Nat} {t t' : Tracker} {failure : Failure} {events : List (Event S.Rule)}
      (probe : String)
      (run : Course grammar input Allowed start t (.failed failure) events t') :
    Course grammar input Allowed start t (.failed failure)
      (.entered probe start :: events ++ [.missed probe failure]) t'
  | broken {start : Nat} {t t' : Tracker} {cause : Fault} {events : List (Event S.Rule)}
      (probe : String)
      (run : Course grammar input Allowed start t (.faulted cause) events t') :
    Course grammar input Allowed start t (.faulted cause) (.entered probe start :: events) t'

/-- What runs from faithful cells do takes a course. -/
def Chronicle.charted (grammar : Grammar S) (input : Text) (Allowed : Kind) : Chronicle S :=
  faithful grammar
    { holds := fun offset memory outcome events memory' =>
        Course grammar input Allowed offset memory.tracker outcome events memory'.tracker
      stay := fun offset memory => .stay offset memory.tracker
      goOn := .goOn
      goBack := .goBack }

namespace Action

variable {α : Type} {grammar : Grammar S} {input : Text} {Allowed : Kind}

/-- From faithful cells, every finished run takes a course and leaves faithful cells. -/
abbrev Charted (grammar : Grammar S) (input : Text) (Allowed : Kind) (action : Action S α) : Prop :=
  (Chronicle.charted grammar input Allowed).Covers action

theorem Charted.probed {action : Action S α} (ha : action.Charted grammar input Allowed)
    (name : String) : (action.probed name).Charted grammar input Allowed := by
  rintro offset memory run hrun hcells
  obtain ⟨inner, hinner, rfl⟩ := Option.map_eq_some_iff.mp hrun
  obtain ⟨hfaithful, hcourse⟩ := ha hinner hcells
  unfold Run.leaving
  cases hout : inner.outcome with
  | matched value next =>
    rw [hout] at hcourse
    exact ⟨hfaithful, by simpa [Run.after, hout] using hcourse.left name⟩
  | failed failure =>
    rw [hout] at hcourse
    exact ⟨hfaithful, by simpa [Run.after, hout] using hcourse.missed name⟩
  | faulted cause =>
    rw [hout] at hcourse
    exact ⟨hfaithful, by simpa [Run.after, hout] using hcourse.broken name⟩

theorem charted_failing (expected : String) :
    (failing expected : Action S α).Charted grammar input Allowed := by
  rintro offset memory run hrun hcells
  cases hrun
  exact ⟨hcells, .fail offset memory.tracker expected⟩

theorem charted_faulting {cause : Fault} (hcause : cause ≠ .badOffset) :
    (faulting cause : Action S α).Charted grammar input Allowed := by
  rintro offset memory run hrun hcells
  cases hrun
  exact ⟨hcells, .fault offset memory.tracker cause hcause⟩

theorem charted_currentOffset :
    (currentOffset : Action S Nat).Charted grammar input Allowed := by
  rintro offset memory run hrun hcells
  cases hrun
  exact ⟨hcells, .stay offset memory.tracker⟩

theorem charted_endOfInput : (endOfInput input : Action S Unit).Charted grammar input Allowed := by
  rintro offset memory run hrun hcells
  unfold endOfInput at hrun
  split at hrun
  · cases hrun
    exact ⟨hcells, .stay offset memory.tracker⟩
  · exact charted_failing "EOF" hrun hcells

theorem charted_lexeme (l : Lexeme α) :
    (l.run input : Action S α).Charted grammar input Allowed := by
  rintro offset memory run hrun hcells
  unfold Lexeme.run at hrun
  split at hrun
  · next hafter =>
    cases hrun
    exact ⟨hcells, .misplaced offset memory.tracker (Text.after?_eq_none_iff.mp hafter)⟩
  · next rest hafter =>
    obtain ⟨a, rfl, rfl⟩ := Text.after?_eq_some_iff.mp hafter
    split at hrun
    · next value count hread =>
      cases hrun
      have hsplit : a ++ rest = a ++ rest.take count ++ rest.drop count := by simp
      have htake : Course grammar (a ++ rest) Allowed a.size memory.tracker
          (.matched () (Text.size (a ++ rest.take count))) [] memory.tracker :=
        .take a (rest.take count) (rest.drop count) memory.tracker hsplit
      exact ⟨hcells, by simpa [Run.quiet] using htake⟩
    · exact charted_failing l.expected hrun hcells

theorem charted_custom {act : Act α} (ha : Allowed α act) :
    (custom input act : Action S α).Charted grammar input Allowed := by
  rintro offset memory run hrun hcells
  cases hrun
  refine ⟨hcells, ?_⟩
  rw [Tracker.observeAll_snd]
  exact .custom offset memory.tracker act ha

theorem charted_lazy {call : (α : Type) → Parser S α → Action S α} {slot : Nat} {rule : S.Rule}
    (hcall : (call _ (grammar.body rule)).Charted grammar input Allowed) :
    (lazy grammar call slot rule).Charted grammar input Allowed := by
  apply Chronicle.faithful_lazy hcall
  intro offset memory outcome events memory' opening hcourse
  rcases Cells.opening_events memory.cells grammar slot rule with hevents | hevents
  · rw [hevents]
    exact hcourse
  · rw [hevents]
    exact .construct rule hcourse

end Action

namespace Parser

variable {α : Type} {grammar : Grammar S} {input : Text} {Allowed : Kind}

theorem charted_action {call : (α : Type) → Parser S α → Action S α} {fuel : Nat}
    (hcall : ∀ rule, (call _ (grammar.body rule)).Charted grammar input Allowed)
    {p : Parser S α} (hp : p.Composed Allowed) :
    (p.action grammar input call fuel).Charted grammar input Allowed := by
  induction p with
  | lexeme l => exact Action.charted_lexeme l
  | endOfInput => exact Action.charted_endOfInput
  | always value => exact Chronicle.covers_yield value
  | never expected => exact Action.charted_failing expected
  | currentOffset => exact Action.charted_currentOffset
  | map f p ih => exact (ih hp).map f
  | bind p next ihp ihn => exact (ihp hp.1).bind fun value => ihn value (hp.2 value)
  | zipWith f p q ihp ihq => exact (ihp hp.1).bind fun a => (ihq hp.2).map (f a)
  | orElse p q ihp ihq => exact (ihp hp.1).orElse (ihq hp.2)
  | times p bounds ih => exact (ih hp).times bounds fuel
  | lazy slot rule => exact Action.charted_lazy (hcall rule)
  | probe name p ih => exact (ih hp).probed name
  | custom act => exact Action.charted_custom hp
  | fault cause => exact Action.charted_faulting hp

theorem charted_runWithin (hg : grammar.Composed Allowed) (fuel : Nat) {p : Parser S α}
    (hp : p.Composed Allowed) :
    (p.runWithin grammar input fuel).Charted grammar input Allowed := by
  induction fuel generalizing α with
  | zero => exact Chronicle.covers_unfinished
  | succ fuel ih => exact charted_action (fun rule => ih (hg rule)) hp

end Parser

namespace Parse

variable {α : Type} {grammar : Grammar S} {input : Text} {Allowed : Kind}

/-- The parse ends a course that failed; what was left over of the input counts as a failure. -/
def Concludes (grammar : Grammar S) (input : Text) (Allowed : Kind) (parse : Parse S α) : Prop :=
  ∃ failure events memory,
    Course grammar input Allowed 0 .empty (.failed failure) events memory.tracker ∧
      parse = conclude input failure events memory

/-- How a parse can end, whichever entry point it was. -/
def Ends (grammar : Grammar S) (input : Text) (Allowed : Kind) (parse : Parse S α) : Prop :=
  (∃ value, parse.verdict = .accepted value) ∨ parse.Concludes grammar input Allowed ∨
    ∃ fault tracker, parse.verdict = .faulted fault ∧
      Course grammar input Allowed 0 .empty (.faulted fault) parse.events tracker

@[simp]
theorem cells_conclude (failure : Failure) (events : List (Event S.Rule)) (memory : Memory S) :
    (conclude input failure events memory : Parse S α).cells = memory.cells := by
  unfold conclude
  split <;> rfl

@[simp]
theorem cells_ofRunPartial (run : Run S α) : (ofRunPartial input run).cells = run.memory.cells := by
  unfold ofRunPartial
  split <;> simp

@[simp]
theorem cells_ofRun (run : Run S α) : (ofRun input run).cells = run.memory.cells := by
  unfold ofRun
  split
  · split <;> simp
  · simp
  · rfl

theorem ends_ofRunPartial {run : Run S α}
    (h : Course grammar input Allowed 0 .empty run.outcome.shape run.events run.memory.tracker) :
    (ofRunPartial input run).Ends grammar input Allowed := by
  unfold ofRunPartial
  cases hout : run.outcome with
  | matched value next => exact .inl ⟨(value, next), rfl⟩
  | failed failure =>
    rw [hout] at h
    exact .inr (.inl ⟨failure, run.events, run.memory, h, rfl⟩)
  | faulted fault =>
    rw [hout] at h
    exact .inr (.inr ⟨fault, run.memory.tracker, rfl, h⟩)

theorem ends_ofRun {run : Run S α}
    (h : Course grammar input Allowed 0 .empty run.outcome.shape run.events run.memory.tracker) :
    (ofRun input run).Ends grammar input Allowed := by
  unfold ofRun
  cases hout : run.outcome with
  | matched value next =>
    rw [hout] at h
    dsimp only
    split
    · exact .inl ⟨value, rfl⟩
    · exact .inr (.inl ⟨⟨next, "EOF"⟩, _, _, h.goOn (.fail next run.memory.tracker "EOF"), rfl⟩)
  | failed failure =>
    rw [hout] at h
    exact .inr (.inl ⟨failure, run.events, run.memory, h, rfl⟩)
  | faulted fault =>
    rw [hout] at h
    exact .inr (.inr ⟨fault, run.memory.tracker, rfl, h⟩)

end Parse

namespace Parser

variable {α : Type} {grammar : Grammar S} {input : Text} {Allowed : Kind} {p : Parser S α}
  {cells : Cells S} {fuel : Nat}

theorem parseWithin_ends (hg : grammar.Composed Allowed) (hp : p.Composed Allowed)
    (hcells : cells.Faithful grammar) {parse : Parse S α}
    (h : p.parseWithin fuel grammar input cells = some parse) :
    parse.Ends grammar input Allowed := by
  obtain ⟨run, hrun, rfl⟩ := Option.map_eq_some_iff.mp h
  exact Parse.ends_ofRun (charted_runWithin hg fuel hp hrun hcells).2

theorem parsePartialWithin_ends (hg : grammar.Composed Allowed) (hp : p.Composed Allowed)
    (hcells : cells.Faithful grammar) {parse : Parse S (α × Nat)}
    (h : p.parsePartialWithin fuel grammar input cells = some parse) :
    parse.Ends grammar input Allowed := by
  obtain ⟨run, hrun, rfl⟩ := Option.map_eq_some_iff.mp h
  exact Parse.ends_ofRunPartial (charted_runWithin hg fuel hp hrun hcells).2

end Parser

end Descent
