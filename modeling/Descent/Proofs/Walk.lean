import Descent.Proofs.Preference

/-!
# Walks through a program

A match is a walk through the states of a program that ends where it is accepted. The ways of a
matcher never come back to a state before they take a character; walks may. But a walk that comes
back can go on from there at once, so where there is a walk there is a way.
-/

namespace Descent.Regex

/-- A walk of so many steps from a state at one place to a state at another, and what is noted on
it. -/
inductive Walk (states : Array State) : Nat → Nat → Place → Trail → Nat → Place → Prop
  | stay (s : Nat) (p : Place) : Walk states 0 s p [] s p
  | take {n s next s' : Nat} {p q : Place} {trail : Trail} {members : CharClass} {c : Char}
      {rest : Text} (hstate : states[s]? = some (.one members next)) (hrest : p.rest = c :: rest)
      (hmember : members.contains c = true)
      (more : Walk states n next (p.advance c rest) trail s' q) :
      Walk states (n + 1) s p trail s' q
  | silent {n s next s' : Nat} {p q : Place} {trail : Trail} {state : State}
      (hstate : states[s]? = some state) (hnext : next ∈ state.silent p)
      (more : Walk states n next p trail s' q) :
      Walk states (n + 1) s p (trail ++ state.noted p) s' q

namespace Walk

variable {states : Array State} {m n s s' s'' : Nat} {p q r : Place} {trail trail' : Trail}

theorem append (h : Walk states m s p trail s' q) (h' : Walk states n s' q trail' s'' r) :
    Walk states (m + n) s p (trail' ++ trail) s'' r := by
  induction h with
  | stay s p =>
    rw [List.append_nil, Nat.zero_add]
    exact h'
  | take hstate hrest hmember _ ih =>
    rw [Nat.succ_add]
    exact .take hstate hrest hmember (ih h')
  | silent hstate hnext _ ih =>
    rw [Nat.succ_add, ← List.append_assoc]
    exact .silent hstate hnext (ih h')

end Walk

/-- A walk that ends where a match is accepted. -/
def Accepts (states : Array State) (n s : Nat) (p : Place) (trail : Trail) (q : Place) : Prop :=
  ∃ s', Walk states n s p trail s' q ∧ states[s']? = some .accept

namespace Program

variable {program : Program} {place : Place}

theorem exists_accepts_of_mem_ways {path : StateSet} {thread : Thread} {finish : Finish}
    (h : finish ∈ program.ways place path thread) :
    ∃ n trail q, Accepts program.states n thread.state place trail q ∧
      finish = { stop := q.index, trail := trail ++ thread.trail } := by
  fun_induction ways program place path thread with
  | case1 place path thread hnew _ haccept =>
    have hstate := Array.getElem?_eq_some_iff.mpr ⟨hnew.1, haccept⟩
    exact ⟨0, [], place, ⟨_, .stay _ _, hstate⟩, List.mem_singleton.mp h⟩
  | case2 | case4 | case6 => cases h
  | case3 place path thread hnew _ members next hone c rest hrest hmember ih =>
    have hstate := Array.getElem?_eq_some_iff.mpr ⟨hnew.1, hone⟩
    obtain ⟨n, trail, q, ⟨s', hwalk, haccept⟩, rfl⟩ := ih h
    exact ⟨n + 1, trail, q, ⟨s', .take hstate hrest hmember hwalk, haccept⟩, rfl⟩
  | case5 place path thread hnew _ haccept hone ih =>
    have hstate := Array.getElem?_eq_some_iff.mpr ⟨hnew.1, rfl⟩
    obtain ⟨next, hnext, hmem⟩ := List.mem_flatMap.mp h
    obtain ⟨n, trail, q, ⟨s', hwalk, haccept⟩, rfl⟩ := ih next hmem
    refine ⟨n + 1, _, q, ⟨s', .silent hstate hnext hwalk, haccept⟩, ?_⟩
    rw [List.append_assoc]

/-- A walk that is accepted goes on from some state that has not been passed, and so does a way. -/
theorem ways_ne_nil_or {n s : Nat} {place q : Place} {trail : Trail}
    (h : Accepts program.states n s place trail q) (path : StateSet) (before : Trail) :
    program.ways place path { state := s, trail := before } ≠ [] ∨
      ∃ s' ∈ path, ∃ m ≤ n, ∃ trail' q', Accepts program.states m s' place trail' q' := by
  by_cases hmem : s ∈ path
  · exact .inr ⟨s, hmem, n, Nat.le_refl n, trail, q, h⟩
  obtain ⟨s', hwalk, haccept⟩ := h
  cases hwalk with
  | stay =>
    left
    rw [ways_accept haccept hmem]
    exact List.cons_ne_nil _ _
  | take hstate hrest hmember more =>
    left
    rw [ways_one hstate hmem, waysOn, hrest]
    simp only [hmember, if_true]
    rcases ways_ne_nil_or ⟨s', more, haccept⟩ ∅ before with hways | ⟨_, hnone, -⟩
    · exact hways
    · exact absurd hnone Std.TreeSet.not_mem_emptyc
  | silent hstate hnext more =>
    rcases ways_ne_nil_or ⟨s', more, haccept⟩ (path.insert s) (_ ++ before) with
      hways | ⟨s'', hthrough, m, hm, trail', q', h'⟩
    · left
      rw [ways_silent hstate (State.isSilent_of_mem_silent hnext) hmem]
      exact fun hnil => hways (List.flatMap_eq_nil_iff.mp hnil _ hnext)
    · rcases StateSet.mem_insert.mp hthrough with rfl | hthrough
      · -- The walk has come back, and what is left of it is shorter.
        rcases ways_ne_nil_or h' path before with hways | ⟨s', hs', k, hk, hshort⟩
        · exact .inl hways
        · exact .inr ⟨s', hs', k, by omega, hshort⟩
      · exact .inr ⟨s'', hthrough, m, by omega, trail', q', h'⟩
termination_by n

/-- A program matches from a state if it has a walk from there that is accepted. -/
theorem ways_ne_nil_iff {s : Nat} {before : Trail} :
    program.ways place ∅ { state := s, trail := before } ≠ [] ↔
      ∃ n trail q, Accepts program.states n s place trail q := by
  constructor
  · intro h
    obtain ⟨finish, hmem⟩ := List.exists_mem_of_ne_nil _ h
    obtain ⟨n, trail, q, hwalk, -⟩ := exists_accepts_of_mem_ways hmem
    exact ⟨n, trail, q, hwalk⟩
  · rintro ⟨n, trail, q, hwalk⟩
    rcases ways_ne_nil_or hwalk ∅ before with h | ⟨_, hnone, -⟩
    · exact h
    · exact absurd hnone Std.TreeSet.not_mem_emptyc

end Program

end Descent.Regex
