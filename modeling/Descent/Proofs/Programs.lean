import Descent.Proofs.Drafting
import Descent.Proofs.Trails

/-!
# Programs of expressions

The engine that runs programs finds a match in a text if and only if there is one, at the first
place where one begins, and what it finds is a match of the expression there. Its groups lie inside
that match and are groups of the source. Of the matches that begin at the same place it need not
find the one that the expression prefers: alternatives that start with the same parts are joined,
and what they share is matched in its own order of preference before an alternative is chosen.
-/

namespace Descent

namespace Regex

/-- The match from a place on, given where it ends. -/
def Match.upTo (place : Place) (finish : Program.Finish) : Match where
  whole := { start := place.index, stop := finish.stop }
  trail := finish.trail

theorem eq_ofTree_of_compile {source : String} {regex : Regex} (h : compile source = .ok regex) :
    regex = .ofTree regex.tree := by
  have htree := tree_of_compile h
  unfold compile at h
  rw [htree] at h
  by_cases hfits : Weight.fits regex.tree = true
  · exact (Except.ok.inj ((if_pos hfits).symm.trans h)).symm
  · cases (if_neg hfits).symm.trans h

theorem matchAt?_eq_head?_ways (regex : Regex) (place : Place) :
    regex.matchAt? place =
      (regex.program.ways place ∅ { state := regex.program.start, trail := [] }).head?.map
        (Match.upTo place) := by
  unfold matchAt?
  dsimp only
  rw [Program.run_eq_head?_ways, List.flatMap_singleton, Option.or_none]
  rfl

section Tree

variable {tree : Tree} {place : Place} {found : Match}

theorem passage_of_matchAt? (h : (ofTree tree).matchAt? place = some found) :
    ∃ q, tree.passage place found.trail q ∧ found.whole = ⟨place.index, q.index⟩ := by
  rw [matchAt?_eq_head?_ways] at h
  obtain ⟨finish, hfirst, rfl⟩ := Option.map_eq_some_iff.mp h
  obtain ⟨n, trail, q, hwalk, rfl⟩ :=
    Program.exists_accepts_of_mem_ways (List.mem_of_head? hfirst)
  refine ⟨q, ?_, rfl⟩
  rw [Match.upTo, List.append_nil]
  exact (Program.exists_accepts_iff tree).mp ⟨n, hwalk⟩

theorem exists_matchAt?_iff :
    (∃ found, (ofTree tree).matchAt? place = some found) ↔ ∃ q, tree.Leads place q := by
  constructor
  · rintro ⟨found, h⟩
    obtain ⟨q, hpassage, -⟩ := passage_of_matchAt? h
    exact ⟨q, found.trail, hpassage⟩
  · rintro ⟨q, trail, h⟩
    obtain ⟨n, hwalk⟩ := (Program.exists_accepts_iff tree).mpr h
    obtain ⟨finish, finishes, hways⟩ :=
      List.exists_cons_of_ne_nil (Program.ways_ne_nil_iff.mpr ⟨n, trail, q, hwalk⟩)
    refine ⟨.upTo place finish, ?_⟩
    rw [matchAt?_eq_head?_ways]
    exact congrArg (fun ways => ways.head?.map (Match.upTo place)) hways

theorem search?_eq_none_of_isTied (htied : tree.isTied .forward = true) (index : Nat) (c : Char)
    (text : Text) : (ofTree tree).search? index (some c) text = none := by
  have hnone : ∀ index c text,
      (ofTree tree).matchAt? { index, before := some c, rest := text } = none := by
    intro index c text
    refine Option.eq_none_iff_forall_ne_some.mpr fun found h => ?_
    obtain ⟨q, hleads⟩ := exists_matchAt?_iff.mp ⟨found, h⟩
    cases Tree.before_of_isTied htied hleads
  induction text generalizing index c with
  | nil => exact hnone index c []
  | cons d text ih =>
    rw [search?, hnone, Option.none_or]
    exact ih (index + 1) d

/-- To look at the start of the text only leaves no match out. -/
theorem find?_eq_search? (tree : Tree) (text : Text) :
    (ofTree tree).find? text = (ofTree tree).search? 0 none text := by
  unfold find?
  split
  · next htied =>
    cases text with
    | nil => rfl
    | cons c text =>
      have htied' : tree.isTied .forward = true := htied
      rw [search?, search?_eq_none_of_isTied htied', Option.or_none]
  · rfl

end Tree

/-- The place so many characters further on. -/
def Place.later (place : Place) : Nat → Place
  | 0 => place
  | count + 1 =>
    match place.rest with
    | [] => place
    | c :: rest => (place.advance c rest).later count

section Expr

variable {tree : Tree} {e : Expr} {index : Nat} {before : Option Char} {text : Text}
  {found : Match}

theorem map_start_matchAt? (h : ∀ p q, tree.Leads p q ↔ e.passage.Leads p q) (place : Place) :
    ((ofTree tree).matchAt? place).map (·.whole.start) =
      (e.matchAt? place).map (·.whole.start) := by
  have hboth : (∃ found, (ofTree tree).matchAt? place = some found) ↔
      ∃ found, e.matchAt? place = some found := by
    rw [exists_matchAt?_iff, Expr.exists_matchAt?_iff, exists_comm]
    exact exists_congr fun q => h place q
  cases htree : (ofTree tree).matchAt? place with
  | none =>
    cases hexpr : e.matchAt? place with
    | none => rfl
    | some found =>
      obtain ⟨found', hfound'⟩ := hboth.mpr ⟨found, hexpr⟩
      cases htree.symm.trans hfound'
  | some found =>
    obtain ⟨found', hfound'⟩ := hboth.mp ⟨found, htree⟩
    obtain ⟨q, -, hwhole⟩ := passage_of_matchAt? htree
    rw [hfound', Option.map_some, Option.map_some, Expr.start_of_matchAt? hfound', hwhole]

/-- A search stops at the first place where the expression has a match. -/
theorem map_start_search? (h : ∀ p q, tree.Leads p q ↔ e.passage.Leads p q) :
    ((ofTree tree).search? index before text).map (·.whole.start) =
      (e.search? index before text).map (·.whole.start) := by
  induction text generalizing index before with
  | nil => exact map_start_matchAt? h _
  | cons c rest ih =>
    rw [search?, Expr.search?, Option.map_or, Option.map_or, map_start_matchAt? h, ih]

/-- What a search finds is a match that begins at one of the places gone through. -/
theorem exists_later_of_search? (h : (ofTree tree).search? index before text = some found) :
    ∃ count q, tree.passage (Place.later ⟨index, before, text⟩ count) found.trail q ∧
      (Place.later ⟨index, before, text⟩ count).index = index + count ∧
      found.whole = ⟨index + count, q.index⟩ := by
  induction text generalizing index before with
  | nil =>
    obtain ⟨q, hpassage, hwhole⟩ := passage_of_matchAt? h
    exact ⟨0, q, hpassage, rfl, hwhole⟩
  | cons c rest ih =>
    rcases Option.or_eq_some_iff.mp h with hhere | ⟨-, hmore⟩
    · obtain ⟨q, hpassage, hwhole⟩ := passage_of_matchAt? hhere
      exact ⟨0, q, hpassage, rfl, hwhole⟩
    · obtain ⟨count, q, hpassage, hindex, hwhole⟩ := ih hmore
      rw [Nat.add_right_comm] at hindex hwhole
      exact ⟨count + 1, q, hpassage, hindex, hwhole⟩

end Expr

namespace Match

variable {tree : Tree} {p q : Place} {found : Match} {group : Nat} {span : Span}

/-- The ends of a group are in order and inside the match. -/
theorem inside_of_group? (hpassage : tree.passage p found.trail q) (hgroup : group ≠ 0)
    (hspan : found.group? group = some span) :
    group ∈ tree.groups ∧ p.index ≤ span.start ∧ span.start ≤ span.stop ∧
      span.stop ≤ q.index := by
  have horderly := tree.orderly hpassage
  unfold group? at hspan
  rw [if_neg hgroup] at hspan
  rcases tree.paired hpassage group with ⟨hnone, -⟩ | ⟨start, stop, hopening, hclosing, hle⟩
  · simp [hnone] at hspan
  · simp only [hopening, hclosing, Option.bind_eq_bind, Option.bind_some] at hspan
    cases hspan
    obtain ⟨hmem, hstart, -⟩ := horderly.within _ (Trail.mem_of_lookup hopening)
    exact ⟨hmem, hstart, hle, (horderly.within _ (Trail.mem_of_lookup hclosing)).2.2.2⟩

end Match

namespace Engine

variable {source : String} {regex : Regex} {e : Expr}

theorem programs_find?_eq (regex : Regex) (text : Text) :
    programs.find? regex text = (regex.find? text).map (·.whole) :=
  rfl

theorem programs_captures?_eq (regex : Regex) (text : Text) :
    programs.captures? regex text = (regex.find? text).map (·.group?) :=
  rfl

theorem programs_eq_ofTree (h : programs.compile source = .ok regex)
    (he : Expr.ofSource source.toList = .ok e) : regex = .ofTree (.ofExpr e) := by
  obtain ⟨e', he', htree⟩ := Tree.ofSource_eq_ok_iff.mp (tree_of_compile h)
  cases he.symm.trans he'
  rw [eq_ofTree_of_compile h, htree]

/-- Programs find the first match in a text: it begins where the first match of the expression
begins, and it is a match of the expression there. -/
theorem programs_find? (h : programs.compile source = .ok regex)
    (he : Expr.ofSource source.toList = .ok e) (htidy : e.IsTidy) (text : Text) :
    (programs.find? regex text).map (·.start) = (e.find? text).map (·.whole.start) ∧
      ∀ span, programs.find? regex text = some span →
        ∃ trail q, e.passage ((Place.beginning text).later span.start) trail q ∧
          span.stop = q.index := by
  have hleads : ∀ p q, (Tree.ofExpr e).Leads p q ↔ e.passage.Leads p q :=
    fun p q => Tree.leads_ofExpr htidy
  obtain rfl := programs_eq_ofTree h he
  constructor
  · rw [programs_find?_eq, Option.map_map, find?_eq_search?]
    exact map_start_search? hleads
  · intro span hspan
    obtain ⟨found, hfound, rfl⟩ := Option.map_eq_some_iff.mp hspan
    rw [find?_eq_search?] at hfound
    obtain ⟨count, q, hpassage, -, hwhole⟩ := exists_later_of_search? hfound
    rw [hwhole, Nat.zero_add]
    obtain ⟨trail, hexpr⟩ := (hleads _ q).mp ⟨_, hpassage⟩
    exact ⟨trail, q, hexpr, rfl⟩

example : ∃ e, Expr.ofSource "a*|[b-d]".toList = .ok e ∧ e.IsTidy := by
  refine ⟨.alternate (.repetition ⟨0, none, true⟩ (.one (.single 'a'))) (.one (.range 'b' 'd')),
    ?_, CharClass.isTidy_single 'a', Nat.zero_le _, by decide, trivial⟩
  decide +kernel

/-- Programs tell the groups of the match that they find: group zero is the match, and any other is
a group of the source inside it. -/
theorem programs_captures? (h : programs.compile source = .ok regex)
    (he : Expr.ofSource source.toList = .ok e) (text : Text) :
    (programs.captures? regex text).bind (· 0) = programs.find? regex text ∧
      ∀ captures, programs.captures? regex text = some captures →
        ∃ whole, programs.find? regex text = some whole ∧
          ∀ group ≠ 0, ∀ span, captures group = some span →
            group ∈ e.groups ∧ whole.start ≤ span.start ∧ span.start ≤ span.stop ∧
              span.stop ≤ whole.stop := by
  obtain rfl := programs_eq_ofTree h he
  constructor
  · rw [programs_captures?_eq, programs_find?_eq]
    cases (ofTree (Tree.ofExpr e)).find? text <;> rfl
  · intro captures hcaptures
    obtain ⟨found, hfound, rfl⟩ := Option.map_eq_some_iff.mp hcaptures
    refine ⟨found.whole, Option.map_eq_some_iff.mpr ⟨found, hfound, rfl⟩, ?_⟩
    intro group hgroup span hspan
    rw [find?_eq_search?] at hfound
    obtain ⟨count, q, hpassage, hindex, hwhole⟩ := exists_later_of_search? hfound
    obtain ⟨hmem, hinside⟩ := Match.inside_of_group? hpassage hgroup hspan
    rw [hindex] at hinside
    rw [hwhole]
    exact ⟨Tree.groups_ofExpr hmem, hinside⟩

/-- Of an anchored source, programs find a match if the source on its own has one at the beginning
of the text, and what they find is one of those. -/
theorem programs_find?_anchored (h : programs.compile (Pattern.anchored source) = .ok regex)
    (he : Expr.ofSource source.toList = .ok e) (htidy : e.IsTidy) (text : Text) :
    ((∃ span, programs.find? regex text = some span) ↔
        ∃ trail q, e.passage (.beginning text) trail q) ∧
      ∀ span, programs.find? regex text = some span →
        ∃ trail q, e.passage (.beginning text) trail q ∧ span = ⟨0, q.index⟩ := by
  obtain ⟨tied, htied, -⟩ := Tree.ofSource_eq_ok_iff.mp (tree_of_compile h)
  obtain rfl : tied = e.tied := by
    rw [Pattern.toList_anchored] at htied
    exact Expr.ofSource_anchored he htied
  have htidy' : e.tied.IsTidy := ⟨trivial, htidy⟩
  obtain ⟨hstart, hpassage⟩ := programs_find? h htied htidy' text
  rw [Expr.find?_tied] at hstart
  have hzero : ∀ span, programs.find? regex text = some span →
      ∃ trail q, e.passage (.beginning text) trail q ∧ span = ⟨0, q.index⟩ := by
    intro span hspan
    rw [hspan] at hstart
    obtain ⟨found, hfound, hsame⟩ := Option.map_eq_some_iff.mp hstart.symm
    obtain ⟨start, stop⟩ := span
    obtain rfl : start = 0 := hsame.symm.trans (Expr.start_of_matchAt? hfound)
    obtain ⟨_, q, ⟨-, _, late, ⟨-, -, rfl⟩, hq, -⟩, rfl⟩ := hpassage _ hspan
    exact ⟨late, q, hq, rfl⟩
  refine ⟨⟨?_, ?_⟩, hzero⟩
  · rintro ⟨span, hspan⟩
    obtain ⟨trail, q, hq, -⟩ := hzero span hspan
    exact ⟨trail, q, hq⟩
  · intro hpassages
    obtain ⟨found, hfound⟩ := (Expr.exists_matchAt?_iff e _).mpr hpassages
    rw [hfound] at hstart
    obtain ⟨span, hspan, -⟩ := Option.map_eq_some_iff.mp hstart
    exact ⟨span, hspan⟩

/-- What two alternatives share is matched once for both. Here that is as few characters as
possible, so that the second alternative is found before the first one has come to its match. -/
theorem not_isLeftmostFirst_programs : ¬ programs.IsLeftmostFirst := by
  intro h
  have hfound : ((programs.compile ".*?a|.*?b").toOption.bind fun regex =>
      programs.find? regex ['b', 'a']) = some ⟨0, 1⟩ := by
    decide +kernel
  have hpreferred : ((Expr.ofSource ".*?a|.*?b".toList).toOption.bind fun e =>
      (e.find? ['b', 'a']).map (·.whole)) = some ⟨0, 2⟩ := by
    decide +kernel
  cases hcompile : programs.compile ".*?a|.*?b" with
  | error e =>
    rw [hcompile] at hfound
    cases hfound
  | ok regex =>
    cases hsource : Expr.ofSource ".*?a|.*?b".toList with
    | error e =>
      rw [hsource] at hpreferred
      cases hpreferred
    | ok e =>
      rw [hcompile] at hfound
      rw [hsource] at hpreferred
      have hsame := h.find?_eq hcompile hsource ['b', 'a']
      cases hfound.symm.trans (hsame.trans hpreferred)

end Engine

end Regex

open Regex

/-- With the programs of expressions, a pattern matches where its source can match on its own from
the very beginning of the text that is left, and takes what one of these matches takes. -/
theorem Parser.patternOf_beginning {S : Signature} {grammar : Grammar S} {input rest : Text}
    {offset : Nat} {source : String} {p : Parser S String} {e : Expr}
    (h : patternOf source 0 = .ok p) (he : Expr.ofSource source.toList = .ok e)
    (htidy : e.IsTidy) (hrest : input.after? offset = some rest) (memory : Memory S)
    (fuel : Nat) :
    ∃ run, p.runWithin grammar input (fuel + 1) offset memory = some run ∧
      ((∃ value next, run.outcome = .matched value next) ↔
        ∃ trail q, e.passage (.beginning rest) trail q) ∧
      ∀ value next, run.outcome = .matched value next →
        ∃ trail q, e.passage (.beginning rest) trail q ∧
          value = String.ofList (rest.take q.index) ∧
          next = offset + Text.size (rest.take q.index) := by
  obtain ⟨pattern, hpattern, rfl⟩ := patternBy_eq_ok_iff.mp h
  obtain ⟨alone, tied, -, htied, rfl⟩ := Pattern.exists_compiled hpattern
  obtain ⟨hfind, hspan⟩ := Engine.programs_find?_anchored htied he htidy rest
  refine ⟨_, runWithin_patternGroup _ 0 hrest fuel memory, ?_⟩
  rw [← hfind]
  simp only [Pattern.read?, Pattern.readWhole?, Pattern.ofCompiled, if_true]
  cases hfound : Engine.programs.find? tied rest with
  | none => simp [Run.failing]
  | some span =>
    obtain ⟨trail, q, hpassage, rfl⟩ := hspan span hfound
    refine ⟨by simp [Run.quiet], ?_⟩
    rintro value next ⟨⟩
    refine ⟨trail, q, hpassage, ?_, rfl⟩
    simp [Span.text]

end Descent
