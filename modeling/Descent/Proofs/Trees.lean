import Descent.Proofs.Passage
import Mathlib.Data.List.Basic

/-!
# Trees and the expressions they are made of

A tree leads from a place to just those places to which the expression leads that it is made of.
Literals are put together, characters and classes between which there is a choice become one class,
what alternatives start with is taken out, and rounds are left out that can take nothing: all this
changes what is noted on the way and which way is preferred, but not where the ways come to.
-/

namespace Descent.Regex

open Text

namespace CharClass

/-- The ranges of a class ascend, so that a merge of two of them keeps their characters. -/
def IsTidy (c : CharClass) : Prop :=
  Ranges.Ascending 0 c.ranges

variable {a b : CharClass} {classes : List CharClass} {c d : Char}

theorem isTidy_single (c : Char) : (single c).IsTidy :=
  ⟨Nat.zero_le _, Nat.le_refl _, trivial⟩

theorem IsTidy.union (ha : a.IsTidy) (hb : b.IsTidy) : (a.union b).IsTidy :=
  Ranges.ascending_union ha hb

theorem IsTidy.contains_union (ha : a.IsTidy) (hb : b.IsTidy) (c : Char) :
    (a.union b).contains c = (a.contains c || b.contains c) :=
  Ranges.contains_union ha hb

theorem IsTidy.foldl_union (ha : a.IsTidy) (h : ∀ b ∈ classes, b.IsTidy) :
    (classes.foldl CharClass.union a).IsTidy := by
  induction classes generalizing a with
  | nil => exact ha
  | cons b classes ih =>
    rw [List.forall_mem_cons] at h
    exact ih (ha.union h.1) h.2

theorem IsTidy.contains_foldl_union (ha : a.IsTidy) (h : ∀ b ∈ classes, b.IsTidy) (c : Char) :
    (classes.foldl CharClass.union a).contains c = true ↔
      a.contains c = true ∨ ∃ b ∈ classes, b.contains c = true := by
  induction classes generalizing a with
  | nil => simp
  | cons b classes ih =>
    rw [List.forall_mem_cons] at h
    rw [List.foldl_cons, ih (ha.union h.1) h.2, ha.contains_union h.1]
    simp [or_assoc]

theorem contains_of_only? (h : a.only? = some d) : a.contains c = true ↔ c = d := by
  unfold only? at h
  split at h
  · next low high hranges =>
    split at h
    · next hone =>
      obtain ⟨rfl, hvalid⟩ := hone
      cases h
      simp only [contains, hranges, Ranges.contains, Bool.or_false, Bool.and_eq_true,
        decide_eq_true_eq]
      constructor
      · intro hc
        rw [Nat.le_antisymm hc.1 hc.2, Char.ofNat_toNat]
      · rintro rfl
        have hlow : (Char.ofNat low).toNat = low := by
          rw [Char.ofNat, dif_pos hvalid]
          rfl
        exact ⟨Nat.le_of_eq hlow.symm, Nat.le_of_eq hlow⟩
    · cases h
  · cases h

end CharClass

def Expr.IsTidy : Expr → Prop
  | empty | assertion _ => True
  | one c => c.IsTidy
  | group body | capture _ body | repetition _ body => body.IsTidy
  | concat a b | alternate a b => a.IsTidy ∧ b.IsTidy

namespace Tree

def IsTidy : Tree → Prop
  | empty | literal _ | assertion _ => True
  | one c => c.IsTidy
  | capture _ body | repetition _ body => body.IsTidy
  | concat a b | alternate a b => a.IsTidy ∧ b.IsTidy

def Leads (t : Tree) (p q : Place) : Prop :=
  t.passage.Leads p q

variable {t u : Tree} {ts us : List Tree} {a b : Tree} {c : CharClass} {p q : Place}

@[simp]
theorem leads_empty : empty.Leads p q ↔ q = p :=
  Passage.leads_stay

@[simp]
theorem leads_one :
    (one c).Leads p q ↔
      ∃ d rest, p.rest = d :: rest ∧ c.contains d = true ∧ q = p.advance d rest :=
  Passage.leads_take

@[simp]
theorem leads_capture {index : Nat} : (capture index t).Leads p q ↔ t.Leads p q :=
  Passage.leads_group

@[simp]
theorem leads_concat : (concat a b).Leads p q ↔ ∃ middle, a.Leads p middle ∧ b.Leads middle q :=
  Passage.leads_andThen

@[simp]
theorem leads_alternate : (alternate a b).Leads p q ↔ a.Leads p q ∨ b.Leads p q :=
  Passage.leads_either

theorem leads_literal_cons {d : Char} {s : List Char} :
    (literal (d :: s)).Leads p q ↔
      ∃ middle, (one (.single d)).Leads p middle ∧ (literal s).Leads middle q :=
  Passage.leads_andThen

@[simp]
theorem leads_literal_nil : (literal []).Leads p q ↔ q = p :=
  Passage.leads_stay

theorem leads_literal_append {s s' : List Char} :
    (literal (s ++ s')).Leads p q ↔
      ∃ middle, (literal s).Leads p middle ∧ (literal s').Leads middle q := by
  induction s generalizing p with
  | nil => simp
  | cons d s ih =>
    simp only [List.cons_append, leads_literal_cons, ih]
    grind

theorem leads_literal_singleton {d : Char} :
    (literal [d]).Leads p q ↔ (one (.single d)).Leads p q := by
  simp [leads_literal_cons]

theorem leads_ofClass : (ofClass c).Leads p q ↔ (one c).Leads p q := by
  unfold ofClass
  cases honly : c.only? with
  | none => rfl
  | some d =>
    simp only [leads_literal_singleton, leads_one, CharClass.contains_single,
      CharClass.contains_of_only? honly, decide_eq_true_eq]

theorem isTidy_ofClass (h : c.IsTidy) : (ofClass c).IsTidy := by
  unfold ofClass
  cases c.only? with
  | none => exact h
  | some d => trivial

/-- Whether trees lead one after the other from one place to another. -/
def LeadAll : List Tree → Place → Place → Prop
  | [], p, q => q = p
  | t :: ts, p, q => ∃ middle, t.Leads p middle ∧ LeadAll ts middle q

theorem leadAll_append :
    LeadAll (ts ++ us) p q ↔ ∃ middle, LeadAll ts p middle ∧ LeadAll us middle q := by
  induction ts generalizing p with
  | nil => simp [LeadAll]
  | cons t ts ih =>
    simp only [List.cons_append, LeadAll, ih]
    grind

theorem leadAll_singleton : LeadAll [t] p q ↔ t.Leads p q := by
  simp [LeadAll]

theorem leads_ofParts : (ofParts ts).Leads p q ↔ LeadAll ts p q := by
  induction ts generalizing p with
  | nil => exact leads_empty
  | cons t ts ih =>
    cases ts with
    | nil => exact leadAll_singleton.symm
    | cons u ts =>
      change (concat t (ofParts (u :: ts))).Leads p q ↔ _
      simp only [leads_concat, ih]
      rfl

theorem leadAll_parts : LeadAll t.parts p q ↔ t.Leads p q := by
  induction t generalizing p with
  | empty => exact leads_empty.symm
  | concat a b _ ihb =>
    simp only [parts, LeadAll, leads_concat, ihb]
  | _ => exact leadAll_singleton

theorem leadAll_flatMap_parts : LeadAll (ts.flatMap parts) p q ↔ LeadAll ts p q := by
  induction ts generalizing p with
  | nil => rfl
  | cons t ts ih => simp only [List.flatMap_cons, leadAll_append, leadAll_parts, ih, LeadAll]

theorem leadAll_joinLiterals : LeadAll (joinLiterals ts) p q ↔ LeadAll ts p q := by
  induction ts generalizing p with
  | nil => rfl
  | cons t ts ih =>
    rw [joinLiterals.eq_def]
    dsimp only
    split
    · next s s' rest hjoined =>
      simp only [LeadAll, ← ih, hjoined, leads_literal_append]
      grind
    · simp only [LeadAll, ih]

theorem leads_concatAll : (concatAll ts).Leads p q ↔ LeadAll ts p q := by
  rw [concatAll, leads_ofParts, leadAll_joinLiterals, leadAll_flatMap_parts]

theorem leads_ofOptions : (ofOptions ts).Leads p q ↔ ∃ t ∈ ts, t.Leads p q := by
  induction ts with
  | nil => simp [ofOptions, CharClass.contains, CharClass.empty, Ranges.contains]
  | cons t ts ih =>
    cases ts with
    | nil => simp [ofOptions]
    | cons u ts =>
      change (alternate t (ofOptions (u :: ts))).Leads p q ↔ _
      rw [leads_alternate, ih]
      exact (List.exists_mem_cons_iff (·.Leads p q) t (u :: ts)).symm

theorem exists_mem_options : (∃ u ∈ t.options, u.Leads p q) ↔ t.Leads p q := by
  induction t with
  | alternate a b _ ihb => rw [options, List.exists_mem_cons_iff, ihb, leads_alternate]
  | _ => simp [options]

theorem exists_mem_flatMap_options :
    (∃ u ∈ ts.flatMap options, u.Leads p q) ↔ ∃ t ∈ ts, t.Leads p q := by
  constructor
  · rintro ⟨u, hu, hleads⟩
    obtain ⟨t, ht, hu⟩ := List.mem_flatMap.mp hu
    exact ⟨t, ht, exists_mem_options.mp ⟨u, hu, hleads⟩⟩
  · rintro ⟨t, ht, hleads⟩
    obtain ⟨u, hu, hleads⟩ := exists_mem_options.mpr hleads
    exact ⟨u, List.mem_flatMap_of_mem ht hu, hleads⟩

/-- What stands for a class leads where the class does. -/
theorem of_singleton?_or_class? (h : t.singleton? = some c ∨ t.class? = some c) (ht : t.IsTidy) :
    c.IsTidy ∧ ∀ p q, t.Leads p q ↔ (one c).Leads p q := by
  rcases h with h | h
  · unfold singleton? at h
    split at h
    · cases h
      exact ⟨CharClass.isTidy_single _, fun p q => leads_literal_singleton⟩
    · cases h
  · unfold class? at h
    split at h
    · cases h
      exact ⟨ht, fun p q => Iff.rfl⟩
    · cases h

theorem of_mapM_class {classOf : Tree → Option CharClass} {classes : List CharClass}
    (hclass : ∀ t c, classOf t = some c → t.singleton? = some c ∨ t.class? = some c)
    (h : ts.mapM classOf = some classes) (hts : ∀ t ∈ ts, t.IsTidy) :
    (∀ c ∈ classes, c.IsTidy) ∧
      ∀ p q, (∃ t ∈ ts, t.Leads p q) ↔ ∃ c ∈ classes, (one c).Leads p q := by
  induction ts generalizing classes with
  | nil =>
    cases h
    simp
  | cons t ts ih =>
    rw [List.mapM_cons] at h
    obtain ⟨c, hc, h⟩ := Option.bind_eq_some_iff.mp h
    obtain ⟨rest, hrest, h⟩ := Option.bind_eq_some_iff.mp h
    cases h
    rw [List.forall_mem_cons] at hts
    obtain ⟨htidy, hleads⟩ := of_singleton?_or_class? (hclass t c hc) hts.1
    obtain ⟨htidy', hleads'⟩ := ih hrest hts.2
    refine ⟨List.forall_mem_cons.mpr ⟨htidy, htidy'⟩, fun p q => ?_⟩
    rw [List.exists_mem_cons_iff, List.exists_mem_cons_iff, hleads, hleads']

theorem exists_classes {classes : List CharClass} (hts : ∀ t ∈ ts, t.IsTidy)
    (h : (ts.mapM singleton?).or (ts.mapM class?) = some classes) :
    (∀ c ∈ classes, c.IsTidy) ∧
      ∀ p q, (∃ t ∈ ts, t.Leads p q) ↔ ∃ c ∈ classes, (one c).Leads p q := by
  rcases Option.or_eq_some_iff.mp h with h | ⟨-, h⟩
  · exact of_mapM_class (fun _ _ => .inl) h hts
  · exact of_mapM_class (fun _ _ => .inr) h hts

theorem isTidy_ofOptions (h : ∀ t ∈ ts, t.IsTidy) : (ofOptions ts).IsTidy := by
  induction ts with
  | nil => trivial
  | cons t ts ih =>
    rw [List.forall_mem_cons] at h
    cases ts with
    | nil => exact h.1
    | cons u ts => exact ⟨h.1, ih h.2⟩

/-- One class for several matches what any of them does. -/
theorem leads_foldl_union {classes : List CharClass} (h : ∀ c ∈ classes, c.IsTidy) :
    (one (classes.foldl .union .empty)).Leads p q ↔ ∃ c ∈ classes, (one c).Leads p q := by
  have hempty : CharClass.empty.IsTidy := trivial
  simp only [leads_one, hempty.contains_foldl_union h]
  simp only [CharClass.contains, CharClass.empty, Ranges.contains]
  grind

theorem leads_chooseFrom (h : ∀ t ∈ ts, t.IsTidy) :
    (chooseFrom ts).Leads p q ↔ ∃ t ∈ ts, t.Leads p q := by
  unfold chooseFrom
  split
  · exact leads_ofOptions
  · exact leads_ofOptions
  · split
    · next classes hclasses =>
      obtain ⟨htidy, hleads⟩ := exists_classes h hclasses
      rw [leads_ofClass, leads_foldl_union htidy, hleads]
    · exact leads_ofOptions

theorem isTidy_chooseFrom (h : ∀ t ∈ ts, t.IsTidy) : (chooseFrom ts).IsTidy := by
  unfold chooseFrom
  split
  · exact isTidy_ofOptions h
  · exact isTidy_ofOptions h
  · split
    · next classes hclasses =>
      have hempty : CharClass.empty.IsTidy := trivial
      exact isTidy_ofClass (hempty.foldl_union (exists_classes h hclasses).1)
    · exact isTidy_ofOptions h

theorem commonPrefix_isPrefix (ts us : List Tree) :
    commonPrefix ts us <+: ts ∧ commonPrefix ts us <+: us := by
  induction ts generalizing us with
  | nil => exact ⟨List.nil_prefix, List.nil_prefix⟩
  | cons t ts ih =>
    cases us with
    | nil => exact ⟨List.nil_prefix, List.nil_prefix⟩
    | cons u us =>
      unfold commonPrefix
      split
      · next heq =>
        subst heq
        exact ⟨List.prefix_cons_inj t |>.mpr (ih us).1, List.prefix_cons_inj t |>.mpr (ih us).2⟩
      · exact ⟨List.nil_prefix, List.nil_prefix⟩

theorem foldl_commonPrefix_isPrefix (shared : List Tree) (ts : List Tree) :
    ts.foldl (fun shared u => commonPrefix shared u.parts) shared <+: shared ∧
      ∀ t ∈ ts, ts.foldl (fun shared u => commonPrefix shared u.parts) shared <+: t.parts := by
  induction ts generalizing shared with
  | nil => exact ⟨List.prefix_rfl, by simp⟩
  | cons t ts ih =>
    obtain ⟨hfirst, hrest⟩ := ih (commonPrefix shared t.parts)
    obtain ⟨hshared, hparts⟩ := commonPrefix_isPrefix shared t.parts
    rw [List.foldl_cons]
    exact ⟨hfirst.trans hshared, List.forall_mem_cons.mpr ⟨hfirst.trans hparts, hrest⟩⟩

theorem sharedStart_isPrefix (ht : t ∈ ts) : sharedStart ts <+: t.parts := by
  cases ts with
  | nil => cases ht
  | cons u us =>
    rw [sharedStart]
    split
    · obtain ⟨hfirst, hrest⟩ := foldl_commonPrefix_isPrefix u.parts us
      rcases List.mem_cons.mp ht with rfl | ht
      · exact hfirst
      · exact hrest t ht
    · exact List.nil_prefix

theorem exists_of_mem_sharedStart (hu : u ∈ sharedStart ts) : ∃ t ∈ ts, u ∈ t.parts := by
  cases ts with
  | nil => cases hu
  | cons t rest => exact ⟨t, .head _, (sharedStart_isPrefix (.head _)).subset hu⟩

theorem isTidy_ofParts (h : ∀ t ∈ ts, t.IsTidy) : (ofParts ts).IsTidy := by
  induction ts with
  | nil => trivial
  | cons t ts ih =>
    rw [List.forall_mem_cons] at h
    cases ts with
    | nil => exact h.1
    | cons u ts => exact ⟨h.1, ih h.2⟩

theorem IsTidy.parts (h : t.IsTidy) : ∀ u ∈ t.parts, u.IsTidy := by
  induction t with
  | empty => simp [Tree.parts]
  | concat a b _ ihb => exact List.forall_mem_cons.mpr ⟨h.1, ihb h.2⟩
  | _ => simpa [Tree.parts] using h

theorem IsTidy.options (h : t.IsTidy) : ∀ u ∈ t.options, u.IsTidy := by
  induction t with
  | alternate a b _ ihb => exact List.forall_mem_cons.mpr ⟨h.1, ihb h.2⟩
  | _ => simpa [Tree.options] using h

theorem isTidy_joinLiterals (h : ∀ t ∈ ts, t.IsTidy) : ∀ t ∈ joinLiterals ts, t.IsTidy := by
  induction ts with
  | nil => simp [joinLiterals]
  | cons t ts ih =>
    rw [List.forall_mem_cons] at h
    have hrest := ih h.2
    rw [joinLiterals.eq_def]
    dsimp only
    split
    · next hjoined =>
      rw [hjoined] at hrest
      exact List.forall_mem_cons.mpr ⟨trivial, (List.forall_mem_cons.mp hrest).2⟩
    · exact List.forall_mem_cons.mpr ⟨h.1, hrest⟩

theorem isTidy_concatAll (h : ∀ t ∈ ts, t.IsTidy) : (concatAll ts).IsTidy := by
  refine isTidy_ofParts (isTidy_joinLiterals fun u hu => ?_)
  obtain ⟨t, ht, hu⟩ := List.mem_flatMap.mp hu
  exact (h t ht).parts u hu

/-- The alternatives behind what they share. -/
theorem leads_behind {shared : List Tree} (h : ∀ t ∈ ts, shared <+: t.parts) :
    (∃ middle, LeadAll shared p middle ∧
        ∃ t ∈ ts, (ofParts (t.parts.drop shared.length)).Leads middle q) ↔
      ∃ t ∈ ts, t.Leads p q := by
  have hsplit : ∀ t ∈ ts, t.Leads p q ↔ ∃ middle, LeadAll shared p middle ∧
      (ofParts (t.parts.drop shared.length)).Leads middle q := by
    intro t ht
    obtain ⟨rest, hrest⟩ := h t ht
    rw [← leadAll_parts, ← hrest, leadAll_append, List.drop_left]
    simp only [leads_ofParts]
  constructor
  · rintro ⟨middle, hshared, t, ht, hrest⟩
    exact ⟨t, ht, (hsplit t ht).mpr ⟨middle, hshared, hrest⟩⟩
  · rintro ⟨t, ht, hleads⟩
    obtain ⟨middle, hshared, hrest⟩ := (hsplit t ht).mp hleads
    exact ⟨middle, hshared, t, ht, hrest⟩

theorem isTidy_rests (h : ∀ t ∈ ts, t.IsTidy) (count : Nat) :
    ∀ u ∈ (ts.map fun t => ofParts (t.parts.drop count)).flatMap options, u.IsTidy := by
  intro u hu
  obtain ⟨rest, hrest, hu⟩ := List.mem_flatMap.mp hu
  obtain ⟨t, ht, rfl⟩ := List.mem_map.mp hrest
  refine (isTidy_ofParts fun part hpart => ?_).options u hu
  exact (h t ht).parts part (List.mem_of_mem_drop hpart)

theorem isTidy_flatMap_options (h : ∀ t ∈ ts, t.IsTidy) : ∀ u ∈ ts.flatMap options, u.IsTidy := by
  intro u hu
  obtain ⟨t, ht, hu⟩ := List.mem_flatMap.mp hu
  exact (h t ht).options u hu

theorem leads_alternateAll (h : ∀ t ∈ ts, t.IsTidy) :
    (alternateAll ts).Leads p q ↔ ∃ t ∈ ts, t.Leads p q := by
  have hchoices := isTidy_flatMap_options h
  unfold alternateAll
  dsimp only
  split
  · next hone =>
    rw [← exists_mem_flatMap_options, hone]
    simp
  · rw [leads_chooseFrom hchoices, exists_mem_flatMap_options]
  · have hrests := isTidy_rests hchoices (sharedStart (ts.flatMap options)).length
    rw [leads_concatAll, leadAll_append]
    simp only [leadAll_singleton, leads_chooseFrom hrests, exists_mem_flatMap_options,
      List.mem_map, exists_exists_and_eq_and]
    exact (leads_behind fun t ht => sharedStart_isPrefix ht).trans exists_mem_flatMap_options

theorem isTidy_alternateAll (h : ∀ t ∈ ts, t.IsTidy) : (alternateAll ts).IsTidy := by
  have hchoices := isTidy_flatMap_options h
  unfold alternateAll
  dsimp only
  split
  · next t hone => exact hchoices t (by simp [hone])
  · exact isTidy_chooseFrom hchoices
  · refine isTidy_concatAll fun u hu => ?_
    rcases List.mem_append.mp hu with hu | hu
    · obtain ⟨t, ht, hu⟩ := exists_of_mem_sharedStart hu
      exact (hchoices t ht).parts u hu
    · cases List.mem_singleton.mp hu
      exact isTidy_chooseFrom (isTidy_rests hchoices _)

theorem leads_choose (h : ∀ t ∈ ts, t.IsTidy) :
    (choose ts).Leads p q ↔ ∃ t ∈ ts, t.Leads p q := by
  unfold choose
  split
  · simp
  · exact leads_alternateAll h

theorem isTidy_choose (h : ∀ t ∈ ts, t.IsTidy) : (choose ts).IsTidy := by
  unfold choose
  split
  · exact h _ (.head _)
  · exact isTidy_alternateAll h

theorem leads_repetition {r : Repetition} :
    (repetition r t).Leads p q ↔ (t.passage.repeated r).Leads p q :=
  Iff.rfl

theorem isForward_passage (t : Tree) : t.passage.IsForward := by
  induction t with
  | empty => exact Passage.isForward_stay
  | literal s =>
    induction s with
    | nil => exact Passage.isForward_stay
    | cons d s ih => exact (Passage.isForward_take (.single d)).andThen ih
  | one c => exact Passage.isForward_take c
  | assertion a => exact Passage.isForward_test a
  | capture index body ih => exact fun _ _ h => ih (Passage.leads_group.mp h)
  | concat a b iha ihb => exact iha.andThen ihb
  | alternate a b iha ihb => exact iha.either ihb
  | repetition r body ih => exact ih.repeated r

theorem length_le_of_times {R : Passage (Mark × Nat)} {most count : Nat}
    (h : ∀ p q, R.Leads p q → p.rest.length ≤ q.rest.length + most)
    (htimes : (R.times count).Leads p q) :
    p.rest.length ≤ q.rest.length + most * count := by
  induction count generalizing p with
  | zero =>
    obtain rfl := Passage.leads_times_zero.mp htimes
    exact Nat.le_refl _
  | succ count ih =>
    obtain ⟨middle, hround, hmore⟩ := Passage.leads_times_succ.mp htimes
    have hfirst := h p middle hround
    have hrest := ih hmore
    rw [Nat.mul_succ]
    omega

theorem length_le_of_literal {s : List Char} (hleads : (literal s).Leads p q) :
    p.rest.length ≤ q.rest.length + s.length := by
  induction s generalizing p with
  | nil =>
    obtain rfl := leads_literal_nil.mp hleads
    exact Nat.le_refl _
  | cons d s ih =>
    obtain ⟨middle, hfirst, hmore⟩ := leads_literal_cons.mp hleads
    obtain ⟨c, rest, hrest, -, rfl⟩ := leads_one.mp hfirst
    rw [hrest, List.length_cons, List.length_cons]
    exact Nat.succ_le_succ (ih hmore)

theorem length_le_of_longest? {most : Nat} (h : t.longest? = some most) (hleads : t.Leads p q) :
    p.rest.length ≤ q.rest.length + most := by
  induction t generalizing most p q with
  | empty =>
    obtain rfl := leads_empty.mp hleads
    exact Nat.le_add_right _ _
  | assertion a =>
    obtain ⟨-, rfl⟩ := Passage.leads_test.mp hleads
    exact Nat.le_add_right _ _
  | literal s =>
    cases h
    exact length_le_of_literal hleads
  | one c =>
    unfold longest? at h
    split at h
    · cases h
    · cases h
      obtain ⟨d, rest, hrest, -, rfl⟩ := leads_one.mp hleads
      rw [hrest]
      exact Nat.le_refl _
  | capture index body ih => exact ih h (leads_capture.mp hleads)
  | concat a b iha ihb =>
    obtain ⟨ma, ha, h⟩ := Option.bind_eq_some_iff.mp h
    obtain ⟨mb, hb, h⟩ := Option.bind_eq_some_iff.mp h
    cases h
    obtain ⟨middle, hfirst, hsecond⟩ := leads_concat.mp hleads
    have hle := iha ha hfirst
    have hle' := ihb hb hsecond
    omega
  | alternate a b iha ihb =>
    obtain ⟨ma, ha, h⟩ := Option.bind_eq_some_iff.mp h
    obtain ⟨mb, hb, h⟩ := Option.bind_eq_some_iff.mp h
    cases h
    rcases leads_alternate.mp hleads with hfirst | hsecond
    · have hle := iha ha hfirst
      omega
    · have hle := ihb hb hsecond
      omega
  | repetition r body ih =>
    obtain ⟨mbody, hbody, h⟩ := Option.bind_eq_some_iff.mp h
    obtain ⟨bound, hbound, h⟩ := Option.bind_eq_some_iff.mp h
    cases h
    obtain ⟨count, -, hmost, htimes⟩ := Passage.leads_repeated.mp (leads_repetition.mp hleads)
    have hle := length_le_of_times (fun _ _ => ih hbody) htimes
    exact Nat.le_trans hle
      (Nat.add_le_add_left (Nat.mul_le_mul_left mbody (hmost bound hbound)) _)

theorem eq_of_isStill (h : t.isStill = true) (hleads : t.Leads p q) : q = p := by
  have hle := length_le_of_longest? (beq_iff_eq.mp h) hleads
  exact (t.isForward_passage hleads).resolve_right (Nat.not_lt_of_le hle)

/-- A tree that is tied to the start of the text leads away from there only. -/
theorem before_of_isTied (h : t.isTied .forward = true) (hleads : t.Leads p q) :
    p.before.isNone = true := by
  induction t generalizing p q with
  | empty | literal | one => cases h
  | assertion a =>
    obtain rfl := beq_iff_eq.mp h
    exact (Passage.leads_test.mp hleads).1
  | capture index body ih => exact ih h (leads_capture.mp hleads)
  | concat a b iha ihb =>
    obtain ⟨middle, hfirst, hsecond⟩ := leads_concat.mp hleads
    rcases Bool.or_eq_true_iff.mp h with h | h
    · exact iha h hfirst
    · obtain ⟨hstill, htied⟩ := Bool.and_eq_true_iff.mp h
      obtain rfl := eq_of_isStill hstill hfirst
      exact ihb htied hsecond
  | alternate a b iha ihb =>
    obtain ⟨ha, hb⟩ := Bool.and_eq_true_iff.mp h
    exact (leads_alternate.mp hleads).elim (iha ha) (ihb hb)
  | repetition r body ih =>
    obtain ⟨hleast, htied⟩ := Bool.and_eq_true_iff.mp h
    obtain ⟨count, hcount, -, htimes⟩ := Passage.leads_repeated.mp (leads_repetition.mp hleads)
    cases count with
    | zero => exact absurd (of_decide_eq_true hleast) (Nat.not_lt_of_le hcount)
    | succ count =>
      obtain ⟨middle, hround, -⟩ := Passage.leads_times_succ.mp htimes
      exact ih htied hround

/-- Where no round takes anything, the repetition that is made of it goes to the same places. -/
theorem leads_repeated_min (hstill : t.isStill = true) (r : Repetition) :
    (t.passage.repeated
        { r with least := min r.least 1, most := some (min (r.most.getD 1) 1) }).Leads p q ↔
      (t.passage.repeated r).Leads p q := by
  have hround : ∀ p q, t.passage.Leads p q → q = p := fun _ _ => eq_of_isStill hstill
  rw [Passage.leads_repeated_of_still hround, Passage.leads_repeated_of_still hround]
  have hzero : min r.least 1 = 0 ↔ r.least = 0 := by omega
  rw [hzero]

theorem leads_repeated (r : Repetition) :
    (t.repeated r).Leads p q ↔ (t.passage.repeated r).Leads p q := by
  unfold repeated
  generalize hr : (if t.isStill = true then
    { r with least := min r.least 1, most := some (min (r.most.getD 1) 1) } else r) = r'
  have hsame : (t.passage.repeated r').Leads p q ↔ (t.passage.repeated r).Leads p q := by
    subst hr
    split
    · next hstill => exact leads_repeated_min hstill r
    · rfl
  rw [← hsame]
  dsimp only
  split
  · next hnone =>
    obtain ⟨hleast, hmost⟩ := hnone
    rw [Passage.leads_repeated_of_eq (hmost.trans (congrArg some hleast.symm)), hleast]
    exact leads_empty.trans Passage.leads_times_zero.symm
  · split
    · next hone =>
      obtain ⟨hleast, hmost⟩ := hone
      rw [Passage.leads_repeated_of_eq (hmost.trans (congrArg some hleast.symm)), hleast,
        Passage.times_one]
      rfl
    · rfl

theorem repeated_cases (t : Tree) (r : Repetition) :
    t.repeated r = empty ∨ t.repeated r = t ∨ ∃ r', t.repeated r = repetition r' t := by
  unfold repeated
  generalize (if t.isStill = true then
    { r with least := min r.least 1, most := some (min (r.most.getD 1) 1) } else r) = r'
  dsimp only
  split
  · exact .inl rfl
  · split
    · exact .inr (.inl rfl)
    · exact .inr (.inr ⟨r', rfl⟩)

theorem isTidy_repeated (h : t.IsTidy) (r : Repetition) : (t.repeated r).IsTidy := by
  rcases t.repeated_cases r with heq | heq | ⟨r', heq⟩ <;> rw [heq]
  · trivial
  · exact h
  · exact h

/-- The options that an expression is made into lead where it leads. -/
theorem leads_optionsOf (e : Expr) (h : e.IsTidy) :
    (∀ t ∈ optionsOf e, t.IsTidy) ∧
      ∀ p q, (∃ t ∈ optionsOf e, t.Leads p q) ↔ e.passage.Leads p q := by
  have hchosen : ∀ {e : Expr}, ((∀ t ∈ optionsOf e, t.IsTidy) ∧
      ∀ p q, (∃ t ∈ optionsOf e, t.Leads p q) ↔ e.passage.Leads p q) →
        (choose (optionsOf e)).IsTidy ∧
          ∀ p q, (choose (optionsOf e)).Leads p q ↔ e.passage.Leads p q :=
    fun ⟨htidy, hleads⟩ =>
      ⟨isTidy_choose htidy, fun p q => (leads_choose htidy).trans (hleads p q)⟩
  induction e with
  | empty => exact ⟨by simp [optionsOf, IsTidy], fun p q => by simp [optionsOf, Expr.passage]⟩
  | one c =>
    refine ⟨?_, fun p q => ?_⟩
    · simpa [optionsOf] using isTidy_ofClass h
    · simp [optionsOf, Expr.passage, leads_ofClass]
  | assertion a =>
    refine ⟨by simp [optionsOf, IsTidy], fun p q => ?_⟩
    simp [optionsOf, Expr.passage, Leads, Tree.passage]
  | group body ih =>
    obtain ⟨htidy, hleads⟩ := hchosen (ih h)
    exact ⟨by simpa [optionsOf] using htidy, fun p q => by simp [optionsOf, Expr.passage, hleads]⟩
  | capture index body ih =>
    obtain ⟨htidy, hleads⟩ := hchosen (ih h)
    refine ⟨by simpa [optionsOf, IsTidy] using htidy, fun p q => ?_⟩
    simp [optionsOf, Expr.passage, hleads]
  | concat a b iha ihb =>
    obtain ⟨htidy, hleads⟩ := hchosen (iha h.1)
    obtain ⟨htidy', hleads'⟩ := hchosen (ihb h.2)
    refine ⟨?_, fun p q => ?_⟩
    · have hboth : ∀ t ∈ [choose (optionsOf a), choose (optionsOf b)], t.IsTidy := by
        simp [htidy, htidy']
      simpa [optionsOf] using isTidy_concatAll hboth
    · simp [optionsOf, Expr.passage, leads_concatAll, LeadAll, hleads, hleads']
  | alternate a b iha ihb =>
    obtain ⟨htidy, hleads⟩ := hchosen (iha h.1)
    obtain ⟨htidy', hleads'⟩ := ihb h.2
    refine ⟨List.forall_mem_cons.mpr ⟨htidy, htidy'⟩, fun p q => ?_⟩
    rw [optionsOf, List.exists_mem_cons_iff, hleads, hleads', Expr.passage, Passage.leads_either]
  | repetition r body ih =>
    obtain ⟨htidy, hleads⟩ := hchosen (ih h)
    refine ⟨by simpa [optionsOf] using isTidy_repeated htidy r, fun p q => ?_⟩
    simp only [optionsOf, List.mem_singleton, exists_eq_left, leads_repeated, Expr.passage]
    simp only [Passage.leads_repeated, Passage.leads_times_congr hleads]

theorem leads_ofExpr {e : Expr} (h : e.IsTidy) : (ofExpr e).Leads p q ↔ e.passage.Leads p q := by
  obtain ⟨htidy, hleads⟩ := leads_optionsOf e h
  exact (leads_choose htidy).trans (hleads p q)

end Tree

end Descent.Regex
