import Descent.Regex.Matcher

/-!
# The preferred match

A matcher that backtracks tries the ways to match one after the other, in the order of preference.
To follow them side by side comes to the first of them that it would find: a state that has been
visited before at the same place leads to nothing that the preferred ways have not come to already.
-/

namespace Descent.Regex

namespace State

def isSilent : State → Bool
  | .accept | .one _ _ => false
  | .assertion _ _ | .mark _ _ | .fork _ _ => true

/-- The states that come next without a character being taken, the preferred one first. -/
def silent (place : Place) : State → List Nat
  | .assertion a next => if place.satisfies a then [next] else []
  | .mark _ next => [next]
  | .fork first second => [first, second]
  | .accept | .one _ _ => []

/-- What is noted on the way through a state. -/
def noted (place : Place) : State → Trail
  | .mark m _ => [(m, place.index)]
  | _ => []

theorem length_silent_le (place : Place) (state : State) : (state.silent place).length ≤ 2 := by
  unfold silent
  split
  · split <;> simp
  all_goals simp

theorem isSilent_of_mem_silent {place : Place} {state : State} {next : Nat}
    (h : next ∈ state.silent place) : state.isSilent = true := by
  cases state with
  | accept | one => cases h
  | assertion | mark | fork => rfl

end State

namespace Program

section Explore

variable {program : Program} {place : Place} {seen : StateSet} {state next : Nat}
  {waiting : List (CharClass × Thread)} {trail : Trail} {threads : List Thread}

theorem explore_accept (hstate : program.states[state]? = some .accept)
    (hseen : seen.contains state = false) :
    program.explore place seen waiting ({ state, trail } :: threads) =
      { waiting := waiting.reverse, accepted := some trail } := by
  obtain ⟨hlt, hget⟩ := Array.getElem?_eq_some_iff.mp hstate
  rw [explore, dif_pos ⟨hlt, hseen⟩]
  simp only [hget]

theorem explore_one {members : CharClass}
    (hstate : program.states[state]? = some (.one members next))
    (hseen : seen.contains state = false) :
    program.explore place seen waiting ({ state, trail } :: threads) =
      program.explore place (seen.insert state) ((members, { state := next, trail }) :: waiting)
        threads := by
  obtain ⟨hlt, hget⟩ := Array.getElem?_eq_some_iff.mp hstate
  rw [explore, dif_pos ⟨hlt, hseen⟩]
  simp only [hget]

theorem explore_silent {state' : State} (hstate : program.states[state]? = some state')
    (hsilent : state'.isSilent = true) (hseen : seen.contains state = false) :
    program.explore place seen waiting ({ state, trail } :: threads) =
      program.explore place (seen.insert state) waiting
        ((state'.silent place).map (fun next =>
          { state := next, trail := state'.noted place ++ trail }) ++ threads) := by
  obtain ⟨hlt, hget⟩ := Array.getElem?_eq_some_iff.mp hstate
  rw [explore, dif_pos ⟨hlt, hseen⟩]
  cases state' with
  | accept | one => cases hsilent
  | mark | fork => simp only [hget, State.silent, State.noted, List.map_cons, List.map_nil]; rfl
  | assertion a next =>
    simp only [hget, State.silent]
    split <;> rfl

theorem explore_skip (hskip : program.states[state]? = none ∨ seen.contains state = true) :
    program.explore place seen waiting ({ state, trail } :: threads) =
      program.explore place seen waiting threads := by
  rw [explore, dif_neg]
  rintro ⟨hlt, hnew⟩
  rcases hskip with hnone | hseen
  · exact Nat.not_le_of_lt hlt (Array.getElem?_eq_none_iff.mp hnone)
  · exact Bool.false_ne_true (hnew.symm.trans hseen)

end Explore

/-- All ways in which a match can go on from a thread, in the order of preference. `path` are the
states it has come through since the last character; it does not come to one of them again. -/
def ways (program : Program) (place : Place) (path : StateSet) (thread : Thread) : List Finish :=
  if h : thread.state < program.states.size ∧ path.contains thread.state = false then
    have inside := h.1
    match program.states[thread.state] with
    | .accept => [{ stop := place.index, trail := thread.trail }]
    | .one members next =>
      match _h : place.rest with
      | [] => []
      | c :: rest =>
        if members.contains c then
          program.ways (place.advance c rest) ∅ { thread with state := next }
        else []
    | state =>
      (state.silent place).flatMap fun next =>
        program.ways place (path.insert thread.state)
          { state := next, trail := state.noted place ++ thread.trail }
  else []
termination_by (place.rest.length, StateSet.unseen program.states.size path)
decreasing_by
  · simp [Place.advance, _h, Prod.lex_def]
  · exact Prod.Lex.right _ (StateSet.unseen_insert_lt h.1 h.2)

/-- The ways of a thread that waits for a member of a class. -/
def waysOn (program : Program) (place : Place) (waiting : CharClass × Thread) : List Finish :=
  match place.rest with
  | [] => []
  | c :: rest =>
    if waiting.1.contains c then program.ways (place.advance c rest) ∅ waiting.2 else []

/-- What was noted before stands behind what is noted later. -/
def Finish.behind (trail : Trail) (finish : Finish) : Finish :=
  { finish with trail := finish.trail ++ trail }

section Ways

variable {program : Program} {place : Place} {path : StateSet} {state next : Nat} {trail : Trail}

theorem ways_of_mem (h : state ∈ path) : program.ways place path { state, trail } = [] := by
  rw [ways, dif_neg]
  exact fun hnew => StateSet.contains_eq_false_iff.mp hnew.2 h

theorem ways_of_none (h : program.states[state]? = none) :
    program.ways place path { state, trail } = [] := by
  rw [ways, dif_neg]
  exact fun hinside => Nat.not_le_of_lt hinside.1 (Array.getElem?_eq_none_iff.mp h)

theorem ways_accept (hstate : program.states[state]? = some .accept) (hpath : state ∉ path) :
    program.ways place path { state, trail } = [{ stop := place.index, trail }] := by
  obtain ⟨hlt, hget⟩ := Array.getElem?_eq_some_iff.mp hstate
  rw [ways, dif_pos ⟨hlt, StateSet.contains_eq_false_iff.mpr hpath⟩]
  simp only [hget]

theorem ways_one {members : CharClass} (hstate : program.states[state]? = some (.one members next))
    (hpath : state ∉ path) :
    program.ways place path { state, trail } =
      program.waysOn place (members, { state := next, trail }) := by
  obtain ⟨hlt, hget⟩ := Array.getElem?_eq_some_iff.mp hstate
  rw [ways, dif_pos ⟨hlt, StateSet.contains_eq_false_iff.mpr hpath⟩, waysOn]
  simp only [hget]
  split <;> next hrest => simp only [hrest]

theorem ways_silent {state' : State} (hstate : program.states[state]? = some state')
    (hsilent : state'.isSilent = true) (hpath : state ∉ path) :
    program.ways place path { state, trail } =
      (state'.silent place).flatMap fun next =>
        program.ways place (path.insert state)
          { state := next, trail := state'.noted place ++ trail } := by
  obtain ⟨hlt, hget⟩ := Array.getElem?_eq_some_iff.mp hstate
  rw [ways, dif_pos ⟨hlt, StateSet.contains_eq_false_iff.mpr hpath⟩]
  cases state' with
  | accept | one => cases hsilent
  | assertion | mark | fork => simp only [hget]

theorem ways_behind (program : Program) (place : Place) (path : StateSet) (thread : Thread)
    (trail : Trail) :
    program.ways place path { thread with trail := thread.trail ++ trail } =
      (program.ways place path thread).map (.behind trail) := by
  fun_induction ways program place path thread with
  | case1 place path thread h _ haccept =>
    have hstate := Array.getElem?_eq_some_iff.mpr ⟨h.1, haccept⟩
    rw [ways_accept hstate (StateSet.contains_eq_false_iff.mp h.2)]
    rfl
  | case2 place path thread h _ members next hone hrest =>
    have hstate := Array.getElem?_eq_some_iff.mpr ⟨h.1, hone⟩
    rw [ways_one hstate (StateSet.contains_eq_false_iff.mp h.2)]
    simp only [waysOn, hrest, List.map_nil]
  | case3 place path thread h _ members next hone c rest hrest hmember ih =>
    have hstate := Array.getElem?_eq_some_iff.mpr ⟨h.1, hone⟩
    rw [ways_one hstate (StateSet.contains_eq_false_iff.mp h.2)]
    simp only [waysOn, hrest, hmember, if_true]
    exact ih
  | case4 place path thread h _ members next hone c rest hrest hmember =>
    have hstate := Array.getElem?_eq_some_iff.mpr ⟨h.1, hone⟩
    rw [ways_one hstate (StateSet.contains_eq_false_iff.mp h.2)]
    simp only [waysOn, hrest, hmember, List.map_nil]
    rfl
  | case5 place path thread h _ haccept hone ih =>
    have hstate := Array.getElem?_eq_some_iff.mpr ⟨h.1, rfl⟩
    have hsilent : program.states[thread.state].isSilent = true := by
      cases hcase : program.states[thread.state] with
      | accept => exact (haccept hcase).elim
      | one members next => exact (hone members next hcase).elim
      | assertion | mark | fork => rfl
    rw [ways_silent hstate hsilent (StateSet.contains_eq_false_iff.mp h.2), List.map_flatMap]
    congr 1
    funext next
    rw [← List.append_assoc]
    exact ih next
  | case6 place path thread h =>
    rw [ways, dif_neg h, List.map_nil]

/-- Whether there are ways does not depend on what has been noted. -/
theorem ways_eq_nil_iff {trail trail' : Trail} :
    program.ways place path { state, trail } = [] ↔
      program.ways place path { state, trail := trail' } = [] := by
  have h := fun trail => ways_behind program place path { state, trail := [] } trail
  simp only [List.nil_append] at h
  rw [h trail, h trail', List.map_eq_nil_iff, List.map_eq_nil_iff]

theorem waysOn_eq_nil_iff {members : CharClass} {trail trail' : Trail} :
    program.waysOn place (members, { state, trail }) = [] ↔
      program.waysOn place (members, { state, trail := trail' }) = [] := by
  unfold waysOn
  split
  · rfl
  · split
    · exact ways_eq_nil_iff
    · rfl

end Ways

/-- What a visited state leads to has been visited as well, or is still to be followed by a thread
that has come through this state. Threads that are followed earlier have come through more. -/
structure Covered (program : Program) (place : Place) (seen : StateSet)
    (waiting : List (CharClass × Thread)) (pending : List (Thread × StateSet)) : Prop where
  nested : pending.Pairwise fun first later => ∀ s ∈ later.2, s ∈ first.2
  inside : ∀ p ∈ pending, ∀ s ∈ p.2, s ∈ seen
  passed : ∀ s ∈ seen, program.states[s]? ≠ some .accept
  waits : ∀ s ∈ seen, ∀ members next, program.states[s]? = some (.one members next) →
    ∃ trail, (members, { state := next, trail }) ∈ waiting
  followed : ∀ s ∈ seen, ∀ state, program.states[s]? = some state → ∀ next ∈ state.silent place,
    program.states[next]? = none ∨ next ∈ seen ∨ ∃ p ∈ pending, p.1.state = next ∧ s ∈ p.2

namespace Covered

variable {program : Program} {place : Place} {seen path : StateSet} {state : Nat} {trail : Trail}
  {waiting : List (CharClass × Thread)} {pending : List (Thread × StateSet)}

theorem start (program : Program) (place : Place) (threads : List Thread) :
    Covered program place ∅ [] (threads.map fun thread => (thread, ∅)) where
  nested := List.pairwise_map.mpr (List.pairwise_of_forall fun _ _ _ hs => hs)
  inside := by simp
  passed := by simp
  waits := by simp
  followed := by simp

theorem skip (h : Covered program place seen waiting (({ state, trail }, path) :: pending))
    (hskip : program.states[state]? = none ∨ state ∈ seen) :
    Covered program place seen waiting pending where
  nested := h.nested.of_cons
  inside p hp := h.inside p (.tail _ hp)
  passed := h.passed
  waits := h.waits
  followed s hs state' hstate' next hnext := by
    rcases h.followed s hs state' hstate' next hnext with hnone | hseen | ⟨p, hp, rfl, hthrough⟩
    · exact .inl hnone
    · exact .inr (.inl hseen)
    · cases hp with
      | head => exact hskip.imp_right .inl
      | tail _ hp => exact .inr (.inr ⟨p, hp, rfl, hthrough⟩)

/-- Entering a state settles the thread that enters it. -/
theorem enter {waiting' : List (CharClass × Thread)} {pending' : List (Thread × StateSet)}
    {state' : State}
    (h : Covered program place seen waiting (({ state, trail }, path) :: pending))
    (hstate : program.states[state]? = some state') (hpassed : state' ≠ .accept)
    (hwaiting : ∀ w ∈ waiting, w ∈ waiting')
    (hwaits : ∀ members next, state' = .one members next →
      ∃ trail, (members, { state := next, trail }) ∈ waiting')
    (hnested : (pending' ++ pending).Pairwise fun first later => ∀ s ∈ later.2, s ∈ first.2)
    (hinside : ∀ p ∈ pending', ∀ s ∈ p.2, s ∈ seen.insert state)
    (hfollowed : ∀ next ∈ state'.silent place, ∃ p ∈ pending', p.1.state = next ∧ state ∈ p.2) :
    Covered program place (seen.insert state) waiting' (pending' ++ pending) where
  nested := hnested
  inside p hp s hs := by
    rcases List.mem_append.mp hp with hp | hp
    · exact hinside p hp s hs
    · exact StateSet.mem_insert_of_mem (h.inside p (.tail _ hp) s hs)
  passed s hs := by
    rcases StateSet.mem_insert.mp hs with rfl | hs
    · rw [hstate]
      exact fun heq => hpassed (Option.some_inj.mp heq)
    · exact h.passed s hs
  waits s hs members next hone := by
    rcases StateSet.mem_insert.mp hs with rfl | hs
    · exact hwaits members next (Option.some_inj.mp (hstate.symm.trans hone))
    · obtain ⟨trail, hmem⟩ := h.waits s hs members next hone
      exact ⟨trail, hwaiting _ hmem⟩
  followed s hs other hother next hnext := by
    rcases StateSet.mem_insert.mp hs with rfl | hs
    · cases hstate.symm.trans hother
      obtain ⟨p, hp, hp'⟩ := hfollowed next hnext
      exact .inr (.inr ⟨p, List.mem_append_left _ hp, hp'⟩)
    · rcases h.followed s hs other hother next hnext with hnone | hseen | ⟨p, hp, rfl, hthrough⟩
      · exact .inl hnone
      · exact .inr (.inl (StateSet.mem_insert_of_mem hseen))
      · cases hp with
        | head => exact .inr (.inl (StateSet.mem_insert.mpr (.inl rfl)))
        | tail _ hp => exact .inr (.inr ⟨p, List.mem_append_right _ hp, rfl, hthrough⟩)

theorem one {members : CharClass} {next : Nat}
    (h : Covered program place seen waiting (({ state, trail }, path) :: pending))
    (hstate : program.states[state]? = some (.one members next)) :
    Covered program place (seen.insert state) ((members, { state := next, trail }) :: waiting)
      pending := by
  rw [← List.nil_append pending]
  refine h.enter hstate (by simp) (fun w hw => .tail _ hw) ?_ h.nested.of_cons (by simp)
    (by simp [State.silent])
  rintro _ _ ⟨⟩
  exact ⟨trail, .head _⟩

theorem silent {state' : State}
    (h : Covered program place seen waiting (({ state, trail }, path) :: pending))
    (hstate : program.states[state]? = some state') (hsilent : state'.isSilent = true) :
    Covered program place (seen.insert state) waiting
      ((state'.silent place).map (fun next =>
        ({ state := next, trail := state'.noted place ++ trail }, path.insert state))
          ++ pending) := by
  have hpath : ∀ s ∈ path.insert state, s ∈ seen.insert state := by
    intro s hs
    exact StateSet.mem_insert.mpr ((StateSet.mem_insert.mp hs).imp_right (h.inside _ (.head _) s))
  refine h.enter hstate ?_ (fun w hw => hw) ?_ ?_ ?_ ?_
  · rintro rfl
    cases hsilent
  · rintro members next rfl
    cases hsilent
  · refine List.pairwise_append.mpr ⟨?_, h.nested.of_cons, ?_⟩
    · exact List.pairwise_map.mpr (List.pairwise_of_forall fun _ _ s hs => hs)
    · intro first hfirst later hlater s hs
      obtain ⟨next, -, rfl⟩ := List.mem_map.mp hfirst
      exact StateSet.mem_insert_of_mem (List.rel_of_pairwise_cons h.nested hlater s hs)
  · intro p hp
    obtain ⟨next, -, rfl⟩ := List.mem_map.mp hp
    exact hpath
  · intro next hnext
    exact ⟨_, List.mem_map_of_mem hnext, rfl, StateSet.mem_insert.mpr (.inl rfl)⟩

/-- Where no thread that waits has a way, none leads on from the states that have been visited. -/
theorem ways_eq_nil {path : StateSet} {state : Nat}
    (h : Covered program place seen waiting pending)
    (hwaiting : ∀ w ∈ waiting, program.waysOn place w = [])
    (hpath : ∀ p ∈ pending, ∀ s ∈ p.2, s ∈ path) (hseen : state ∈ seen) (trail : Trail) :
    program.ways place path { state, trail } = [] := by
  by_cases hmem : state ∈ path
  · exact ways_of_mem hmem
  cases hstate : program.states[state]? with
  | none => exact ways_of_none hstate
  | some state' =>
    cases hsilent : state'.isSilent with
    | false =>
      cases state' with
      | accept => exact absurd hstate (h.passed state hseen)
      | one members next =>
        obtain ⟨trail', hwaits⟩ := h.waits state hseen members next hstate
        rw [ways_one hstate hmem]
        exact waysOn_eq_nil_iff.mp (hwaiting _ hwaits)
      | assertion | mark | fork => cases hsilent
    | true =>
      have hlt := (Array.getElem?_eq_some_iff.mp hstate).1
      have hshrinks :=
        StateSet.unseen_insert_lt hlt (StateSet.contains_eq_false_iff.mpr hmem)
      rw [ways_silent hstate hsilent hmem, List.flatMap_eq_nil_iff]
      intro next hnext
      have hlater : ∀ p ∈ pending, ∀ s ∈ p.2, s ∈ path.insert state :=
        fun p hp s hs => StateSet.mem_insert_of_mem (hpath p hp s hs)
      rcases h.followed state hseen state' hstate next hnext with hnone | hnext | ⟨p, hp, -, hs⟩
      · exact ways_of_none hnone
      · exact h.ways_eq_nil hwaiting hlater hnext _
      · exact absurd (hpath p hp state hs) hmem
termination_by StateSet.unseen program.states.size path

end Covered

/-- The first way of the threads at a frontier. -/
def bestFrom (program : Program) (place : Place) (frontier : Frontier) : Option Finish :=
  (frontier.waiting.flatMap (program.waysOn place)).head?.or
    (frontier.accepted.map fun trail => { stop := place.index, trail })

/-- What a visited state leads to never comes first. -/
theorem Covered.head?_ways {program : Program} {place : Place} {seen path : StateSet} {state : Nat}
    {trail : Trail} {waiting : List (CharClass × Thread)} {pending : List (Thread × StateSet)}
    (h : Covered program place seen waiting (({ state, trail }, path) :: pending))
    (hseen : state ∈ seen) (later : List Finish) :
    (waiting.reverse.flatMap (program.waysOn place) ++
        (program.ways place path { state, trail } ++ later)).head? =
      (waiting.reverse.flatMap (program.waysOn place) ++ later).head? := by
  cases hwaiting : waiting.reverse.flatMap (program.waysOn place) with
  | cons first others => rfl
  | nil =>
    have hnone : ∀ w ∈ waiting, program.waysOn place w = [] :=
      fun w hw => List.flatMap_eq_nil_iff.mp hwaiting w (List.mem_reverse.mpr hw)
    have hpath : ∀ p ∈ ({ state, trail }, path) :: pending, ∀ s ∈ p.2, s ∈ path := by
      intro p hp s hs
      cases hp with
      | head => exact hs
      | tail _ hp => exact List.rel_of_pairwise_cons h.nested hp s hs
    rw [h.ways_eq_nil hnone hpath hseen trail, List.nil_append]

/-- Following the threads keeps the first way that there is from them. -/
theorem bestFrom_explore {program : Program} {place : Place} {seen : StateSet}
    {waiting : List (CharClass × Thread)} {pending : List (Thread × StateSet)}
    (h : Covered program place seen waiting pending) :
    program.bestFrom place (program.explore place seen waiting (pending.map Prod.fst)) =
      (waiting.reverse.flatMap (program.waysOn place) ++
        pending.flatMap fun p => program.ways place p.2 p.1).head? := by
  match pending with
  | [] =>
    rw [List.map_nil, explore, List.flatMap_nil, List.append_nil]
    exact Option.or_none
  | ({ state, trail }, path) :: pending =>
    rw [List.map_cons, List.flatMap_cons]
    cases hstate : program.states[state]? with
    | none =>
      rw [explore_skip (.inl hstate), bestFrom_explore (h.skip (.inl hstate)),
        ways_of_none hstate, List.nil_append]
    | some state' =>
      by_cases hseen : state ∈ seen
      · rw [explore_skip (.inr (Std.TreeSet.contains_iff_mem.mpr hseen)),
          bestFrom_explore (h.skip (.inr hseen)), h.head?_ways hseen]
      have hnew := StateSet.contains_eq_false_iff.mpr hseen
      have hpath : state ∉ path := fun hmem => hseen (h.inside _ (.head _) state hmem)
      have hshrinks :=
        StateSet.unseen_insert_lt (Array.getElem?_eq_some_iff.mp hstate).1 hnew
      cases hsilent : state'.isSilent with
      | true =>
        have hfew := State.length_silent_le place state'
        have ih := bestFrom_explore (h.silent hstate hsilent)
        rw [explore_silent hstate hsilent hnew, ways_silent hstate hsilent hpath]
        rw [List.map_append, List.map_map, List.flatMap_append, List.flatMap_map] at ih
        exact ih
      | false =>
        cases state' with
        | accept =>
          rw [explore_accept hstate hnew, ways_accept hstate hpath, List.head?_append]
          rfl
        | one members next =>
          have ih := bestFrom_explore (h.one hstate)
          rw [explore_one hstate hnew, ways_one hstate hpath, ih]
          simp only [List.reverse_cons, List.flatMap_append, List.flatMap_cons, List.flatMap_nil,
            List.append_nil, List.append_assoc]
        | assertion | mark | fork => cases hsilent
termination_by 2 * StateSet.unseen program.states.size seen + pending.length
decreasing_by
  all_goals simp only [List.length_cons, List.length_append, List.length_map]
  all_goals omega

theorem flatMap_step (program : Program) (place : Place) {c : Char} {rest : Text}
    (hrest : place.rest = c :: rest) (frontier : Frontier) :
    (frontier.step c).flatMap (program.ways (place.advance c rest) ∅) =
      frontier.waiting.flatMap (program.waysOn place) := by
  unfold Frontier.step
  induction frontier.waiting with
  | nil => rfl
  | cons w waiting ih =>
    rw [List.flatMap_cons, ← ih, waysOn, hrest]
    by_cases h : w.1.contains c = true <;> simp [h]

/-- To follow the threads side by side comes to the first of all their ways. -/
theorem run_eq_head?_ways (program : Program) (place : Place) (threads : List Thread)
    (best : Option Finish) :
    program.run place threads best =
      (threads.flatMap (program.ways place ∅)).head?.or best := by
  have hexplore := bestFrom_explore (.start program place threads)
  rw [List.map_map, List.flatMap_map, List.reverse_nil, List.flatMap_nil,
    List.nil_append] at hexplore
  change program.bestFrom place (program.explore place ∅ [] (threads.map id)) = _ at hexplore
  rw [List.map_id, bestFrom] at hexplore
  rw [← hexplore, run]
  generalize program.explore place ∅ [] threads = frontier
  split
  · next hrest =>
    have hnone : frontier.waiting.flatMap (program.waysOn place) = [] := by
      refine List.flatMap_eq_nil_iff.mpr fun w _ => ?_
      simp only [waysOn, hrest]
    rw [hnone]
    rfl
  · next c rest hrest =>
    rw [← flatMap_step program place hrest frontier, Option.or_assoc]
    split
    · next hnone =>
      rw [hnone]
      rfl
    · have hless := Place.length_advance_lt hrest
      exact run_eq_head?_ways program (place.advance c rest) _ _
termination_by place.rest.length

end Program

end Descent.Regex
