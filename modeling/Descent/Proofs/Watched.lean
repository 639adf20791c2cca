import Descent.Proofs.Noninterference

/-!
# Watching every run

A watched parser is the same parser with a probe around each of its nodes, so the events of its
runs show where every parser inside it was started and how that ended. Watching changes neither
outcomes nor reports nor verdicts.
-/

namespace Descent

variable {S : Signature}

/-- Probes by two names: `leaf` for parsers that contain no other, `node` for the rest. The probes
that the parser had before are left out. -/
def Parser.watched (leaf node : String) : {α : Type} → Parser S α → Parser S α
  | _, .lexeme l => .probe leaf (.lexeme l)
  | _, .endOfInput => .probe leaf .endOfInput
  | _, .always value => .probe leaf (.always value)
  | _, .never expected => .probe leaf (.never expected)
  | _, .currentOffset => .probe leaf .currentOffset
  | _, .map f p => .probe node (.map f (p.watched leaf node))
  | _, .bind p next =>
    .probe node (.bind (p.watched leaf node) fun value => (next value).watched leaf node)
  | _, .zipWith f p q => .probe node (.zipWith f (p.watched leaf node) (q.watched leaf node))
  | _, .orElse p q => .probe node (.orElse (p.watched leaf node) (q.watched leaf node))
  | _, .times p bounds => .probe node (.times (p.watched leaf node) bounds)
  | _, .lazy slot rule => .probe node (.lazy slot rule)
  | _, .probe _ p => p.watched leaf node
  | _, .custom act => .probe leaf (.custom act)
  | _, .fault cause => .probe leaf (.fault cause)

def Grammar.watched (leaf node : String) (grammar : Grammar S) : Grammar S where
  body rule := (grammar.body rule).watched leaf node
  foreign := grammar.foreign

section Watched

variable {α : Type} {Allowed : Kind} {grammar : Grammar S} {input : Text} (leaf node : String)

theorem Parser.Composed.watched {p : Parser S α} (hp : p.Composed Allowed) :
    (p.watched leaf node).Composed Allowed := by
  induction p with
  | lexeme | endOfInput | always | never | currentOffset | lazy => trivial
  | map f p ih | times p bounds ih | probe name p ih => exact ih hp
  | bind p next ihp ihn => exact ⟨ihp hp.1, fun value => ihn value (hp.2 value)⟩
  | zipWith f p q ihp ihq | orElse p q ihp ihq => exact ⟨ihp hp.1, ihq hp.2⟩
  | custom act => exact hp
  | fault cause => exact hp

theorem Grammar.Composed.watched (hg : grammar.Composed Allowed) :
    (grammar.watched leaf node).Composed Allowed :=
  fun rule => (hg rule).watched leaf node

namespace Parser

theorem simulates_action_watched {call call' : (α : Type) → Parser S α → Action S α} (fuel : Nat)
    (hcall : ∀ rule, (Coupling.reports grammar (grammar.watched leaf node)).Simulates
      (call _ (grammar.body rule)) (call' _ ((grammar.watched leaf node).body rule)))
    {p : Parser S α} (hp : p.IsPlain) :
    (Coupling.reports grammar (grammar.watched leaf node)).Simulates
      (p.action grammar input call fuel)
      ((p.watched leaf node).action (grammar.watched leaf node) input call' fuel) := by
  have hC : (Coupling.reports grammar (grammar.watched leaf node)).OnReports grammar
    (grammar.watched leaf node) := Coupling.reports_onReports
  have hobserving : (Coupling.reports grammar (grammar.watched leaf node)).Observing :=
    Coupling.reports_observing
  induction p with
  | lexeme l =>
    exact hC.probed_right (Coupling.simulates_lexeme (.of_eq rfl input) hobserving l) leaf
  | endOfInput =>
    exact hC.probed_right (Coupling.simulates_endOfInput (.of_eq rfl input) hobserving) leaf
  | always value => exact hC.probed_right (Coupling.simulates_yield value) leaf
  | never expected => exact hC.probed_right (Coupling.simulates_failing hobserving expected) leaf
  | currentOffset => exact hC.probed_right (Coupling.simulates_currentOffset rfl) leaf
  | map f p ih => exact hC.probed_right ((ih hp).map f) node
  | bind p next ihp ihn =>
    exact hC.probed_right ((ihp hp.1).bind fun value => ihn value (hp.2 value)) node
  | zipWith f p q ihp ihq =>
    exact hC.probed_right ((ihp hp.1).bind fun a => (ihq hp.2).map (f a)) node
  | orElse p q ihp ihq => exact hC.probed_right ((ihp hp.1).orElse (ihq hp.2)) node
  | times p bounds ih => exact hC.probed_right ((ih hp).times bounds (Nat.le_refl fuel)) node
  | lazy slot rule =>
    exact hC.probed_right (hC.lazy_right (hC.lazy_left (hcall rule) slot) slot) node
  | probe name p ih => exact hC.probed_left (ih hp) name
  | custom act => exact hp.elim
  | fault cause => exact hC.probed_right (Coupling.simulates_faulting cause) leaf

theorem simulates_runWithin_watched (hg : grammar.IsPlain) (fuel : Nat) {p : Parser S α}
    (hp : p.IsPlain) :
    (Coupling.reports grammar (grammar.watched leaf node)).Simulates
      (p.runWithin grammar input fuel)
      ((p.watched leaf node).runWithin (grammar.watched leaf node) input fuel) := by
  induction fuel generalizing α with
  | zero => exact Coupling.simulates_unfinished
  | succ fuel ih => exact simulates_action_watched leaf node fuel (fun rule => ih (hg rule)) hp

/-- Whatever its cells hold, a run is the run of the watched parser from empty cells. -/
theorem exists_watched_run (hg : grammar.IsPlain) {p : Parser S α} (hp : p.IsPlain) {fuel : Nat}
    {offset : Nat} {tracker : Tracker} {cells : Cells S} (hcells : cells.Faithful grammar)
    {run : Run S α} (hrun : p.runWithin grammar input fuel offset ⟨tracker, cells⟩ = some run) :
    ∃ run', (p.watched leaf node).runWithin (grammar.watched leaf node) input fuel offset
        ⟨tracker, .empty⟩ = some run' ∧
      run'.outcome = run.outcome ∧ Event.reports run'.events = Event.reports run.events ∧
      run'.memory.tracker = run.memory.tracker := by
  have hmemory : (Coupling.reports grammar (grammar.watched leaf node)).Memories
      ⟨tracker, cells⟩ ⟨tracker, .empty⟩ :=
    ⟨trivial, hcells, Cells.faithful_empty⟩
  obtain ⟨run', hrun', hruns⟩ :=
    simulates_runWithin_watched leaf node hg fuel hp rfl hmemory hrun
  have hreports : Event.reports run.events = Event.reports run'.events := hruns.events
  have hcourse := (charted_runWithin hg fuel hp hrun hcells).2
  have hcourse' := (charted_runWithin (hg.watched leaf node) fuel (hp.watched leaf node) hrun'
    Cells.faithful_empty).2
  refine ⟨run', hrun', (hruns.outcomes.eq rfl).symm, hreports.symm, ?_⟩
  rw [hcourse.after_eq, hcourse'.after_eq, hreports]

end Parser

namespace Parse

variable {S' : Signature} {run : Run S α} {run' : Run S' α}

theorem verdict_conclude (failure : Failure) (events : List (Event S.Rule))
    (events' : List (Event S'.Rule)) {memory : Memory S} {memory' : Memory S'}
    (h : memory'.tracker = memory.tracker) :
    (conclude input failure events' memory' : Parse S' α).verdict =
      (conclude input failure events memory : Parse S α).verdict := by
  unfold conclude
  rw [h]
  cases ParseError.at? input (memory.tracker.failure?.getD failure) <;> rfl

theorem verdict_ofRunPartial (hout : run'.outcome = run.outcome)
    (htracker : run'.memory.tracker = run.memory.tracker) :
    (ofRunPartial input run').verdict = (ofRunPartial input run).verdict := by
  unfold ofRunPartial
  rw [hout]
  cases run.outcome with
  | matched value next => rfl
  | failed failure => exact verdict_conclude failure run.events run'.events htracker
  | faulted fault => rfl

theorem verdict_ofRun (hout : run'.outcome = run.outcome)
    (htracker : run'.memory.tracker = run.memory.tracker) :
    (ofRun input run').verdict = (ofRun input run).verdict := by
  unfold ofRun
  rw [hout]
  cases run.outcome with
  | matched value next =>
    dsimp only
    split
    · rfl
    · apply verdict_conclude
      exact congrArg (Tracker.report · ⟨next, "EOF"⟩) htracker
  | failed failure => exact verdict_conclude failure run.events run'.events htracker
  | faulted fault => rfl

end Parse

namespace Parser

theorem exists_watched_parse (hg : grammar.IsPlain) {p : Parser S α} (hp : p.IsPlain) {fuel : Nat}
    {cells : Cells S} (hcells : cells.Faithful grammar) {parse : Parse S α}
    (h : p.parseWithin fuel grammar input cells = some parse) :
    ∃ watched, (p.watched leaf node).parseWithin fuel (grammar.watched leaf node) input .empty =
        some watched ∧ watched.verdict = parse.verdict := by
  obtain ⟨run, hrun, rfl⟩ := Option.map_eq_some_iff.mp h
  obtain ⟨run', hrun', hout, -, htracker⟩ := exists_watched_run leaf node hg hp hcells hrun
  exact ⟨_, Option.map_eq_some_iff.mpr ⟨run', hrun', rfl⟩, Parse.verdict_ofRun hout htracker⟩

theorem exists_watched_parsePartial (hg : grammar.IsPlain) {p : Parser S α} (hp : p.IsPlain)
    {fuel : Nat} {cells : Cells S} (hcells : cells.Faithful grammar) {parse : Parse S (α × Nat)}
    (h : p.parsePartialWithin fuel grammar input cells = some parse) :
    ∃ watched, (p.watched leaf node).parsePartialWithin fuel (grammar.watched leaf node) input
        .empty = some watched ∧ watched.verdict = parse.verdict := by
  obtain ⟨run, hrun, rfl⟩ := Option.map_eq_some_iff.mp h
  obtain ⟨run', hrun', hout, -, htracker⟩ := exists_watched_run leaf node hg hp hcells hrun
  exact ⟨_, Option.map_eq_some_iff.mpr ⟨run', hrun', rfl⟩,
    Parse.verdict_ofRunPartial hout htracker⟩

end Parser

end Watched

end Descent
