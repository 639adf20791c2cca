import Descent.Parse
import Descent.Proofs.CharacterRun
import Descent.Proofs.Completeness
import Descent.Proofs.Composed

/-!
# S-expressions

A grammar for sequences of S-expressions, and the texts that such a sequence may be written as. The
grammar reads all of these texts, however deep the lists in them are and whatever white space
stands around their items.
-/

namespace Descent

inductive Sexpr where
  | atom (name : String)
  | list (items : List Sexpr)

abbrev Sexprs : Signature where
  Rule := Unit
  Result _ := List Sexpr
  decEq := inferInstance

namespace Sexpr

def name : Parser Sexprs Sexpr :=
  (Parser.builtIn "[^()\\s]+").map atom

def parenthesized : Parser Sexprs Sexpr :=
  (((Parser.literal "(").andThen (.lazy 0 ())).skip (.literal ")")).map list

def item : Parser Sexprs Sexpr :=
  (Parser.optWhiteSpace.andThen (name.orElse parenthesized)).skip Parser.optWhiteSpace

def items : Parser Sexprs (List Sexpr) :=
  item.many

def grammar : Grammar Sexprs where
  body _ := items
  foreign _ := []

/-! ### Written forms -/

def IsBlank (text : Text) : Prop :=
  ∀ c ∈ text, Text.isWhiteSpace c = true

def isNameChar (c : Char) : Bool :=
  !(Text.isWhiteSpace c || c == '(' || c == ')')

def isAtom : Sexpr → Bool
  | atom _ => true
  | list _ => false

mutual

/-- The texts that an S-expression may be written as, without white space around it. -/
inductive Written : Sexpr → Text → Prop where
  | atom {name : String} (hne : name ≠ "") (hname : ∀ c ∈ name.toList, isNameChar c = true) :
    Written (.atom name) name.toList
  | list {items : List Sexpr} {text : Text} (h : WrittenAll items text) :
    Written (.list items) ('(' :: text ++ [')'])

/-- The texts that a sequence may be written as. White space may stand on either side of an item,
and has to stand between two atoms. -/
inductive WrittenAll : List Sexpr → Text → Prop where
  | nil : WrittenAll [] []
  | cons {item : Sexpr} {items : List Sexpr} {before text after rest : Text}
    (hbefore : IsBlank before) (h : Written item text) (hafter : IsBlank after)
    (hrest : WrittenAll items rest)
    (hapart : item.isAtom → items.head?.any isAtom → (after ++ rest).head?.any Text.isWhiteSpace) :
    WrittenAll (item :: items) (before ++ text ++ after ++ rest)

end

def nameChars : Regex.CharClass :=
  ((Regex.CharClass.whiteSpace .unicode).union (.ofRanges [('(', ')')])).compl

theorem contains_nameChars : nameChars.contains = isNameChar := by
  funext c
  have hranges : nameChars.ranges = [(0, 8), (14, 31), (33, 39), (42, 132), (134, 159),
      (161, 5759), (5761, 8191), (8203, 8231), (8234, 8238), (8240, 8286), (8288, 12287),
      (12289, 1114111)] := by
    decide +kernel
  have hvalid : c.toNat ≤ 1114111 := by
    rcases c.valid with hlow | ⟨-, hhigh⟩
    · have hlow : c.toNat < 0xD800 := hlow
      omega
    · have hhigh : c.toNat < 0x110000 := hhigh
      omega
  have hopen : c = '(' ↔ c.toNat = 40 := Char.toNat_inj.symm
  have hclose : c = ')' ↔ c.toNat = 41 := Char.toNat_inj.symm
  rw [Bool.eq_iff_iff]
  simp only [Regex.CharClass.contains, isNameChar, hranges, Text.isWhiteSpace,
    Text.whiteSpaceRanges, Text.Ranges.contains, Bool.and_eq_true, Bool.or_eq_true,
    decide_eq_true_eq, Bool.not_eq_true', Bool.or_eq_false_iff, beq_eq_false_iff_ne, hopen, hclose,
    Bool.and_eq_false_iff, decide_eq_false_iff_not, ne_eq, Bool.false_eq_true, or_false, and_true]
  omega

theorem compile_name :
    Pattern.compile "[^()\\s]+" = .ok (.ofRun "[^()\\s]+" 1 nameChars) := by
  have halone : Regex.Tree.ofSource "[^()\\s]+".toList = .ok (.repetition
      { least := 1, most := none, many := true } (.one nameChars)) := by
    decide +kernel
  exact Pattern.compile_eq_ofRun halone (by decide +kernel) (by decide +kernel)
    (by decide +kernel)

/-- No character that satisfies a condition is next. -/
def Stops (p : Char → Bool) (text : Text) : Prop :=
  ∀ c ∈ text.head?, p c = false

theorem Stops.takeWhile_eq_nil {p : Char → Bool} {text : Text} (h : Stops p text) :
    text.takeWhile p = [] := by
  cases text with
  | nil => rfl
  | cons c text => simp [h c rfl]

theorem Stops.dropWhile_eq_self {p : Char → Bool} {text : Text} (h : Stops p text) :
    text.dropWhile p = text := by
  cases text with
  | nil => rfl
  | cons c text => simp [h c rfl]

section Reading

variable {input text rest : Text} {call : (α : Type) → Parser Sexprs α → Action Sexprs α}
  {fuel : Nat}

theorem takes_optWhiteSpace (text : Text) :
    Action.Takes grammar input (Parser.optWhiteSpace.action grammar input call fuel) text
      (String.ofList (text.takeWhile Text.isWhiteSpace)) (text.dropWhile Text.isWhiteSpace) := by
  unfold Parser.optWhiteSpace
  rw [Parser.builtIn_eq_pattern Pattern.compile_optWhiteSpace]
  exact Action.takes_run_zero Regex.CharClass.whiteSpace_ne_empty "\\s*" text

theorem takes_name {characters : String} (hne : characters ≠ "")
    (hname : ∀ c ∈ characters.toList, isNameChar c = true) (hrest : Stops isNameChar rest) :
    Action.Takes grammar input (name.action grammar input call fuel) (characters.toList ++ rest)
      (.atom characters) rest := by
  have htaken : (characters.toList ++ rest).takeWhile nameChars.contains = characters.toList := by
    rw [contains_nameChars, List.takeWhile_append_of_pos hname, hrest.takeWhile_eq_nil,
      List.append_nil]
  have hleft : (characters.toList ++ rest).dropWhile nameChars.contains = rest := by
    rw [contains_nameChars, List.dropWhile_append_of_pos hname, hrest.dropWhile_eq_self]
  have hsome : (characters.toList ++ rest).takeWhile nameChars.contains ≠ [] := by
    rw [htaken]
    simpa using hne
  have htakes : Action.Takes grammar input
      ((Lexeme.pattern (.ofRun "[^()\\s]+" 1 nameChars) 0).run input) _ _ _ :=
    Action.takes_run_one "[^()\\s]+" hsome
  rw [htaken, hleft, String.ofList_toList] at htakes
  unfold name
  rw [Parser.builtIn_eq_pattern compile_name]
  exact htakes.map atom

theorem refuses_name (h : Stops isNameChar text) :
    Action.Refuses grammar input (name.action grammar input call fuel) text := by
  have hnone : text.takeWhile nameChars.contains = [] := by
    rw [contains_nameChars]
    exact h.takeWhile_eq_nil
  have hrefuses : Action.Refuses grammar input
      ((Lexeme.pattern (.ofRun "[^()\\s]+" 1 nameChars) 0).run input) text :=
    Action.refuses_run_one "[^()\\s]+" hnone
  unfold name
  rw [Parser.builtIn_eq_pattern compile_name]
  exact hrefuses.map atom

theorem takes_parenthesized {values : List Sexpr}
    (hbody : Action.Takes grammar input (call _ items) (text ++ ')' :: rest) values
      (')' :: rest)) :
    Action.Takes grammar input (parenthesized.action grammar input call fuel)
      ('(' :: text ++ ')' :: rest) (.list values) rest :=
  Action.Takes.map list (Action.takes_inParentheses hbody)

theorem refuses_parenthesized (h : text.head? ≠ some '(') :
    Action.Refuses grammar input (parenthesized.action grammar input call fuel) text :=
  Action.Refuses.map list (Action.refuses_unopened h)

theorem takes_item {value : Sexpr}
    (hcontent : Action.Takes grammar input ((name.orElse parenthesized).action grammar input call
      fuel) (text.dropWhile Text.isWhiteSpace) value rest) :
    Action.Takes grammar input (item.action grammar input call fuel) text value
      (rest.dropWhile Text.isWhiteSpace) := by
  have hinside : Action.Takes grammar input
      ((Parser.optWhiteSpace.andThen (name.orElse parenthesized)).action grammar input call fuel)
      text value rest := (takes_optWhiteSpace text).bind hcontent
  exact hinside.bind ((takes_optWhiteSpace rest).map fun _ => value)

theorem refuses_item (hname : Stops isNameChar (text.dropWhile Text.isWhiteSpace))
    (hlist : (text.dropWhile Text.isWhiteSpace).head? ≠ some '(') :
    Action.Refuses grammar input (item.action grammar input call fuel) text := by
  have hcontent : Action.Refuses grammar input
      ((name.orElse parenthesized).action grammar input call fuel)
      (text.dropWhile Text.isWhiteSpace) :=
    (refuses_name hname).orElse (refuses_parenthesized hlist)
  exact ((takes_optWhiteSpace text).bind_refuses hcontent).bind

/-- Bodies of rules read what sequences below a certain size may be written as, up to the end of the
list that they are in. -/
def ReadsBelow (input : Text) (call : (α : Type) → Parser Sexprs α → Action Sexprs α)
    (limit : Nat) : Prop :=
  ∀ ⦃values text rest⦄, WrittenAll values text → text.length < limit →
    Action.Takes grammar input (call _ items) (text ++ ')' :: rest) values (')' :: rest)

theorem ReadsBelow.mono {limit limit' : Nat} (h : ReadsBelow input call limit)
    (hle : limit' ≤ limit) : ReadsBelow input call limit' := by
  intro values text rest hwritten hlength
  exact h hwritten (Nat.lt_of_lt_of_le hlength hle)

theorem Written.takes {value : Sexpr} (h : Written value text)
    (hcall : ReadsBelow input call text.length) (hend : value.isAtom → Stops isNameChar rest) :
    Action.Takes grammar input ((name.orElse parenthesized).action grammar input call fuel)
      (text ++ rest) value rest := by
  cases h with
  | atom hne hname => exact (takes_name hne hname (hend rfl)).orElse
  | @list values inside hinside =>
    have hbody : Action.Takes grammar input (call _ items) (inside ++ ')' :: rest) values
        (')' :: rest) := by
      apply hcall hinside
      rw [List.length_append, List.length_cons]
      omega
    have htakes : Action.Takes grammar input (parenthesized.action grammar input call fuel)
        ('(' :: inside ++ ')' :: rest) (.list values) rest := takes_parenthesized hbody
    have hrefuses : Action.Refuses grammar input (name.action grammar input call fuel)
        ('(' :: inside ++ ')' :: rest) := by
      apply refuses_name
      rintro c ⟨⟩
      rfl
    have hsame : '(' :: inside ++ [')'] ++ rest = '(' :: inside ++ ')' :: rest := by simp
    rw [hsame]
    exact hrefuses.orElse_takes htakes

end Reading

theorem Written.exists_head {value : Sexpr} {text : Text} (h : Written value text) :
    ∃ c rest, text = c :: rest ∧ Text.isWhiteSpace c = false ∧
      (value.isAtom = false → isNameChar c = false) := by
  cases h with
  | @atom characters hne hname =>
    cases htext : characters.toList with
    | nil => simp [String.toList_eq_nil_iff, hne] at htext
    | cons c rest =>
      refine ⟨c, rest, rfl, ?_, by simp [isAtom]⟩
      have hc := hname c (by simp [htext])
      simp only [isNameChar, Bool.not_eq_true', Bool.or_eq_false_iff] at hc
      exact hc.1.1
  | list hinside => exact ⟨'(', _, rfl, by decide, fun _ => rfl⟩

theorem Written.dropWhile_eq {value : Sexpr} {before text rest remaining : Text}
    (h : Written value text) (hbefore : IsBlank before)
    (hremaining : remaining = before ++ (text ++ rest) ∨
      remaining = (before ++ (text ++ rest)).dropWhile Text.isWhiteSpace) :
    remaining.dropWhile Text.isWhiteSpace = text ++ rest := by
  have hstart : Stops Text.isWhiteSpace (text ++ rest) := by
    obtain ⟨c, text, rfl, hc, -⟩ := h.exists_head
    rintro _ ⟨⟩
    exact hc
  have hall : (before ++ (text ++ rest)).dropWhile Text.isWhiteSpace = text ++ rest := by
    rw [List.dropWhile_append_of_pos hbefore, hstart.dropWhile_eq_self]
  rcases hremaining with rfl | rfl
  · exact hall
  · rw [hall, hstart.dropWhile_eq_self]

theorem stops_of_isBlank {before rest : Text} (hbefore : IsBlank before)
    (hrest : Stops isNameChar rest) : Stops isNameChar (before ++ rest) := by
  cases before with
  | nil => exact hrest
  | cons c before =>
    rintro _ ⟨⟩
    simp [isNameChar, hbefore c (by simp)]

theorem stops_of_head?_isWhiteSpace {text rest : Text}
    (h : text.head?.any Text.isWhiteSpace = true) : Stops isNameChar (text ++ rest) := by
  cases text with
  | nil => cases h
  | cons c text =>
    have hc : Text.isWhiteSpace c = true := h
    rintro _ ⟨⟩
    simp [isNameChar, hc]

/-- What stands after an atom does not belong to its name. -/
theorem stops_of_apart {value : Sexpr} {values : List Sexpr} {after text rest : Text}
    (hatom : value.isAtom) (hafter : IsBlank after) (hwritten : WrittenAll values text)
    (hapart : value.isAtom → values.head?.any isAtom → (after ++ text).head?.any Text.isWhiteSpace)
    (hrest : Stops isNameChar rest) : Stops isNameChar (after ++ (text ++ rest)) := by
  cases hwritten with
  | nil => exact stops_of_isBlank hafter hrest
  | @cons next values before text after' text' hbefore h hafter' hmore hapart' =>
    by_cases hnext : next.isAtom = true
    · have hblank := hapart hatom hnext
      rw [← List.append_assoc]
      exact stops_of_head?_isWhiteSpace hblank
    · obtain ⟨c, text, rfl, -, hname⟩ := h.exists_head
      have hnext : Stops isNameChar (c :: text ++ after' ++ text' ++ rest) := by
        rintro _ ⟨⟩
        exact hname (by simpa using hnext)
      have hblank := stops_of_isBlank hafter (stops_of_isBlank hbefore hnext)
      simpa using hblank

section Reading

variable {input : Text} {call : (α : Type) → Parser Sexprs α → Action Sexprs α} {fuel : Nat}

/-- Blanks before the first item may have been taken before. -/
theorem WrittenAll.takes {values : List Sexpr} {text rest : Text} (h : WrittenAll values text)
    (hcall : ReadsBelow input call text.length) (hend : ∀ c ∈ rest.head?, c = ')') {count : Nat}
    (hcount : text.length < count) {remaining : Text}
    (hremaining : remaining = text ++ rest ∨
      remaining = (text ++ rest).dropWhile Text.isWhiteSpace) :
    Action.Takes grammar input
      ((item.action grammar input call fuel).optional Action.unfinished count) remaining values
        rest := by
  have hstops : ∀ p, p ')' = false → Stops p rest := by
    intro p hp c hc
    rw [hend c hc]
    exact hp
  induction values generalizing text count remaining with
  | nil =>
    cases h
    have hrest : rest.dropWhile Text.isWhiteSpace = rest := (hstops _ rfl).dropWhile_eq_self
    obtain rfl : remaining = rest := by
      rcases hremaining with rfl | rfl
      · rfl
      · exact hrest
    obtain ⟨count, rfl⟩ := Nat.exists_eq_add_of_lt hcount
    refine Action.Refuses.optional (refuses_item ?_ ?_)
    · rw [hrest]
      exact hstops _ rfl
    · rw [hrest]
      intro hopen
      cases hend '(' hopen
  | cons value values ih =>
    cases h with
    | @cons _ _ before text after text' hbefore h hafter hmore hapart =>
      have hdrop : remaining.dropWhile Text.isWhiteSpace = text ++ (after ++ (text' ++ rest)) := by
        apply h.dropWhile_eq hbefore
        simpa only [List.append_assoc] using hremaining
      have hlength : text.length ≠ 0 := by
        obtain ⟨c, text, rfl, -, -⟩ := h.exists_head
        simp
      simp only [List.length_append] at hcall hcount
      obtain ⟨count, rfl⟩ : ∃ n, count = n + 1 := ⟨count - 1, by omega⟩
      have hitem : Action.Takes grammar input (item.action grammar input call fuel) remaining value
          ((text' ++ rest).dropWhile Text.isWhiteSpace) := by
        rw [← List.dropWhile_append_of_pos hafter]
        apply takes_item
        rw [hdrop]
        refine h.takes (hcall.mono (by omega)) ?_
        intro hatom
        exact stops_of_apart hatom hafter hmore hapart (hstops _ rfl)
      exact hitem.optional (ih hmore (hcall.mono (by omega)) (by omega) (.inr rfl))

end Reading

theorem takes_items {input : Text} (fuel : Nat) {values : List Sexpr} {text rest : Text}
    (h : WrittenAll values text) (hfuel : text.length + 1 < fuel)
    (hend : ∀ c ∈ rest.head?, c = ')') :
    Action.Takes grammar input (items.runWithin grammar input fuel) (text ++ rest) values rest := by
  induction fuel generalizing values text rest with
  | zero => cases hfuel
  | succ fuel ih =>
    have hcall : ReadsBelow input (fun _ q => q.runWithin grammar input fuel) text.length := by
      intro values' text' rest' hwritten hlength
      apply ih hwritten
      · omega
      · rintro _ ⟨⟩
        rfl
    have hmany : Action.Takes grammar input
        ((item.action grammar input (fun _ q => q.runWithin grammar input fuel) fuel).optional
          Action.unfinished fuel) (text ++ rest) values rest :=
      h.takes hcall hend (Nat.lt_of_succ_lt_succ hfuel) (.inl rfl)
    exact hmany.times_atLeast_zero

/-- Every text that a sequence may be written as is parsed, and as just that sequence. -/
theorem items_parse_written {values : List Sexpr} {text : Text} (h : WrittenAll values text) :
    ∃ parse, items.parse grammar text .empty = some parse ∧ parse.verdict = .accepted values := by
  have hfuel : text.length + 1 < Parser.fuelFor text := by
    unfold Parser.fuelFor
    omega
  have htext : Text.after? text 0 = some (text ++ []) :=
    Text.after?_eq_some_iff.mpr ⟨[], by simp, rfl⟩
  have htakes : Action.Takes grammar text (items.runWithin grammar text (Parser.fuelFor text))
      (text ++ []) values [] := takes_items (Parser.fuelFor text) h hfuel (by simp)
  obtain ⟨run, next, hrun, hmatched, hrest, -⟩ :=
    @htakes 0 (.fresh .empty) Cells.faithful_empty htext
  obtain ⟨before, hinput, hsize⟩ := Text.after?_eq_some_iff.mp hrest
  have hatEnd : Text.isAtEnd text next = true := by
    rw [List.append_nil] at hinput
    simp [Text.isAtEnd, hinput, hsize]
  refine ⟨.ofRun text run, Option.map_eq_some_iff.mpr ⟨run, hrun, rfl⟩, ?_⟩
  unfold Parse.ofRun
  simp only [hmatched, hatEnd, if_true]

theorem items_parse_pair :
    WrittenAll [.list [.atom "a", .atom "b"], .list []] "(a b )\t()".toList ∧
      ∃ parse, items.parse grammar "(a b )\t()".toList .empty = some parse ∧
        parse.verdict = .accepted [.list [.atom "a", .atom "b"], .list []] := by
  have hnone : IsBlank [] := List.all_eq_true.mp rfl
  have hspace : IsBlank [' '] := List.all_eq_true.mp rfl
  have htab : IsBlank ['\t'] := List.all_eq_true.mp rfl
  have ha : Written (.atom "a") "a".toList := .atom (by decide) (List.all_eq_true.mp (by decide))
  have hb : Written (.atom "b") "b".toList := .atom (by decide) (List.all_eq_true.mp (by decide))
  have hempty : Written (.list []) ('(' :: [] ++ [')']) := .list .nil
  have hinside : WrittenAll [.atom "a", .atom "b"]
      ([] ++ "a".toList ++ [' '] ++ ([] ++ "b".toList ++ [' '] ++ [])) := by
    refine .cons hnone ha hspace (.cons hnone hb hspace .nil ?_) ?_
    · simp
    · decide
  have hwritten : WrittenAll [.list [.atom "a", .atom "b"], .list []]
      ([] ++ ('(' :: ([] ++ "a".toList ++ [' '] ++ ([] ++ "b".toList ++ [' '] ++ [])) ++ [')']) ++
        ['\t'] ++ ([] ++ ('(' :: [] ++ [')']) ++ [] ++ [])) := by
    refine .cons hnone (.list hinside) htab (.cons hnone hempty hnone .nil ?_) ?_
    · simp
    · simp [isAtom]
  exact ⟨hwritten, items_parse_written hwritten⟩

end Sexpr

end Descent
