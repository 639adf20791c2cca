import Descent.Parse
import Descent.Proofs.Coupling

/-!
# Fuel

More fuel keeps the answer of a run. So a call that ends has one answer, and a statement about
runs with any fuel is one about every call that ends.
-/

namespace Descent

variable {S : Signature} {α : Type} {grammar : Grammar S} {input : Text}

namespace Coupling

def identity (S : Signature) : Coupling S S where
  offsets := Eq
  trackers := Eq
  cells := Eq
  events := Eq
  events_nil := rfl
  events_append := by
    rintro _ _ _ _ rfl rfl
    rfl

theorem Runs.eq {run run' : Run S α} (h : (identity S).Runs run run') : run = run' := by
  obtain ⟨outcome, events, tracker, cells⟩ := run
  obtain ⟨outcome', events', tracker', cells'⟩ := run'
  obtain ⟨houtcomes, hevents, htrackers, hcells⟩ := h
  cases houtcomes.eq rfl
  cases hevents
  cases htrackers
  cases hcells
  rfl

theorem Runs.refl (run : Run S α) : (identity S).Runs run run :=
  ⟨.refl_of_eq rfl run.outcome, rfl, rfl, rfl⟩

theorem identity_simulates_iff {action action' : Action S α} :
    (identity S).Simulates action action' ↔
      ∀ offset memory run, action offset memory = some run → action' offset memory = some run := by
  constructor
  · intro h offset memory run hrun
    obtain ⟨run', hrun', hruns⟩ := h rfl ⟨rfl, rfl⟩ hrun
    rw [hruns.eq]
    exact hrun'
  · rintro h offset _ ⟨t, c⟩ ⟨_, _⟩ run rfl ⟨rfl, rfl⟩ hrun
    exact ⟨run, h offset ⟨t, c⟩ run hrun, Runs.refl run⟩

theorem identity_simulates_self (action : Action S α) : (identity S).Simulates action action :=
  identity_simulates_iff.mpr fun _ _ _ h => h

theorem identity_simulates_probed {action action' : Action S α}
    (ha : (identity S).Simulates action action') (name : String) :
    (identity S).Simulates (action.probed name) (action'.probed name) := by
  rw [identity_simulates_iff] at ha ⊢
  intro offset memory result hresult
  obtain ⟨run, hrun, hleft⟩ := Option.map_eq_some_iff.mp hresult
  exact Option.map_eq_some_iff.mpr ⟨run, ha offset memory run hrun, hleft⟩

end Coupling

namespace Parser

theorem identity_simulates_action {call call' : (α : Type) → Parser S α → Action S α}
    {fuel fuel' : Nat} (hfuel : fuel ≤ fuel')
    (hcall : ∀ (β : Type) (q : Parser S β),
      (Coupling.identity S).Simulates (call β q) (call' β q))
    (p : Parser S α) :
    (Coupling.identity S).Simulates (p.action grammar input call fuel)
      (p.action grammar input call' fuel') := by
  induction p with
  | lexeme l => exact Coupling.identity_simulates_self _
  | endOfInput => exact Coupling.identity_simulates_self _
  | always value => exact Coupling.identity_simulates_self _
  | never expected => exact Coupling.identity_simulates_self _
  | currentOffset => exact Coupling.identity_simulates_self _
  | map f p ih => exact ih.map f
  | bind p next ihp ihn => exact ihp.bind ihn
  | zipWith f p q ihp ihq => exact ihp.bind fun a => ihq.map (f a)
  | orElse p q ihp ihq => exact ihp.orElse ihq
  | times p bounds ih => exact ih.times bounds hfuel
  | lazy slot rule =>
    apply Coupling.simulates_lazy
    · rintro cells _ rfl
      exact ⟨hcall _ _, rfl, rfl⟩
    · rintro cells _ inner _ rfl rfl
      rfl
  | probe name p ih => exact Coupling.identity_simulates_probed ih name
  | custom act => exact Coupling.identity_simulates_self _
  | fault cause => exact Coupling.identity_simulates_self _

theorem identity_simulates_runWithin {fuel fuel' : Nat} (hfuel : fuel ≤ fuel') (p : Parser S α) :
    (Coupling.identity S).Simulates (p.runWithin grammar input fuel)
      (p.runWithin grammar input fuel') := by
  induction fuel generalizing fuel' α with
  | zero => exact Coupling.simulates_unfinished
  | succ fuel ih =>
    obtain ⟨fuel', rfl⟩ : ∃ n, fuel' = n + 1 := ⟨fuel' - 1, by omega⟩
    exact identity_simulates_action (by omega) (fun _ q => ih (by omega) q) p

/-- A run that ends does so in the same way with more fuel. -/
theorem runWithin_mono {fuel fuel' : Nat} (hfuel : fuel ≤ fuel') {p : Parser S α} {offset : Nat}
    {memory : Memory S} {run : Run S α}
    (h : p.runWithin grammar input fuel offset memory = some run) :
    p.runWithin grammar input fuel' offset memory = some run :=
  Coupling.identity_simulates_iff.mp (identity_simulates_runWithin hfuel p) offset memory run h

theorem runWithin_fuel_unique {fuel fuel' : Nat} {p : Parser S α} {offset : Nat}
    {memory : Memory S} {run run' : Run S α}
    (h : p.runWithin grammar input fuel offset memory = some run)
    (h' : p.runWithin grammar input fuel' offset memory = some run') : run = run' := by
  rcases Nat.le_total fuel fuel' with hfuel | hfuel
  · exact Option.some.inj ((runWithin_mono hfuel h).symm.trans h')
  · exact Option.some.inj (h.symm.trans (runWithin_mono hfuel h'))

end Parser

end Descent
