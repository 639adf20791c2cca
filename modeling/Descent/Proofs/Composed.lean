import Descent.Parse

/-!
# What parsers are composed of

A parser is composed of the library's own parsers together with custom matching functions of an
allowed kind; a plain one has no custom functions at all.
-/

namespace Descent

abbrev Act (α : Type) : Type :=
  Text → Tracker → Nat → List Failure × Outcome α

/-- A kind of custom matching functions, of any result type. -/
abbrev Kind : Type 1 :=
  (α : Type) → Act α → Prop

abbrev Kind.none : Kind :=
  fun _ _ => False

namespace Parser

variable {S : Signature}

/-- Built from the library's own parsers and custom functions of a kind. Deliberate faults are
allowed, but none that looks like a text cut at a wrong place. -/
def Composed (Allowed : Kind) : {α : Type} → Parser S α → Prop
  | _, lexeme _ => True
  | _, endOfInput => True
  | _, always _ => True
  | _, never _ => True
  | _, currentOffset => True
  | _, map _ p => p.Composed Allowed
  | _, bind p next => p.Composed Allowed ∧ ∀ value, (next value).Composed Allowed
  | _, zipWith _ p q => p.Composed Allowed ∧ q.Composed Allowed
  | _, orElse p q => p.Composed Allowed ∧ q.Composed Allowed
  | _, times p _ => p.Composed Allowed
  | _, lazy _ _ => True
  | _, probe _ p => p.Composed Allowed
  | _, custom act => Allowed _ act
  | _, fault cause => cause ≠ .badOffset

abbrev IsPlain {α : Type} (p : Parser S α) : Prop :=
  p.Composed .none

theorem Composed.mono {Allowed Allowed' : Kind} (h : ∀ α act, Allowed α act → Allowed' α act)
    {α : Type} {p : Parser S α} (hp : p.Composed Allowed) : p.Composed Allowed' := by
  induction p with
  | lexeme | endOfInput | always | never | currentOffset | lazy => trivial
  | map f p ih | times p bounds ih | probe name p ih => exact ih hp
  | bind p next ihp ihn => exact ⟨ihp hp.1, fun value => ihn value (hp.2 value)⟩
  | zipWith f p q ihp ihq | orElse p q ihp ihq => exact ⟨ihp hp.1, ihq hp.2⟩
  | custom act => exact h _ act hp
  | fault cause => exact hp

theorem IsPlain.composed {α : Type} {p : Parser S α} (hp : p.IsPlain) (Allowed : Kind) :
    p.Composed Allowed :=
  hp.mono fun _ _ h => h.elim

section Combinators

variable {Allowed : Kind} {α β : Type}

@[simp]
theorem composed_literal (text : String) : (literal text : Parser S _).Composed Allowed :=
  trivial

@[simp]
theorem composed_patternGroup (pattern : Pattern) (group : Nat) :
    (patternGroup pattern group : Parser S _).Composed Allowed :=
  trivial

@[simp]
theorem composed_anyChar : (anyChar : Parser S _).Composed Allowed :=
  trivial

@[simp]
theorem composed_remainder : (remainder : Parser S _).Composed Allowed :=
  trivial

theorem builtIn_eq_pattern {source : String} {compiled : Pattern}
    (h : Pattern.compile source = .ok compiled) :
    (builtIn source : Parser S String) = pattern compiled := by
  unfold Pattern.compile at h
  unfold builtIn patternOf patternBy
  rw [h]
  rfl

theorem builtIn_eq_fault {source : String} {e : GrammarError}
    (h : Pattern.compile source = .error e) :
    (builtIn source : Parser S String) = fault (.refused e) := by
  unfold Pattern.compile at h
  unfold builtIn patternOf patternBy
  rw [h]

/-- A built-in pattern that is refused would fault, but not by cutting a text. -/
@[simp]
theorem composed_builtIn (source : String) : (builtIn source : Parser S _).Composed Allowed := by
  cases h : Pattern.compile source with
  | ok compiled => rw [builtIn_eq_pattern h]; trivial
  | error e => rw [builtIn_eq_fault h]; simp [Composed]

@[simp]
theorem composed_result {p : Parser S α} {value : β} :
    (p.result value).Composed Allowed ↔ p.Composed Allowed :=
  Iff.rfl

theorem Composed.andThen {p : Parser S α} {q : Parser S β} (hp : p.Composed Allowed)
    (hq : q.Composed Allowed) : (p.andThen q).Composed Allowed :=
  ⟨hp, fun _ => hq⟩

@[simp]
theorem composed_skip {p : Parser S α} {q : Parser S β} :
    (p.skip q).Composed Allowed ↔ p.Composed Allowed ∧ q.Composed Allowed :=
  Iff.rfl

@[simp]
theorem composed_both {p : Parser S α} {q : Parser S β} :
    (p.both q).Composed Allowed ↔ p.Composed Allowed ∧ q.Composed Allowed :=
  Iff.rfl

@[simp]
theorem composed_sequence {ps : List (Parser S α)} :
    (sequence ps).Composed Allowed ↔ ∀ p ∈ ps, p.Composed Allowed := by
  induction ps with
  | nil => simp [sequence, Composed]
  | cons p ps ih => simp [sequence, Composed, ih]

@[simp]
theorem composed_alt {p : Parser S α} {ps : List (Parser S α)} :
    (alt p ps).Composed Allowed ↔ p.Composed Allowed ∧ ∀ q ∈ ps, q.Composed Allowed := by
  unfold alt
  induction ps generalizing p with
  | nil => simp
  | cons q ps ih => simp [ih, Composed, and_assoc]

@[simp]
theorem composed_many {p : Parser S α} : p.many.Composed Allowed ↔ p.Composed Allowed :=
  Iff.rfl

theorem Composed.sepBy1 {p : Parser S α} {separator : Parser S β} (hp : p.Composed Allowed)
    (hs : separator.Composed Allowed) : (p.sepBy1 separator).Composed Allowed :=
  ⟨hp, hs.andThen hp⟩

theorem Composed.sepBy {p : Parser S α} {separator : Parser S β} (hp : p.Composed Allowed)
    (hs : separator.Composed Allowed) : (p.sepBy separator).Composed Allowed :=
  ⟨hp.sepBy1 hs, trivial⟩

@[simp]
theorem composed_mark {p : Parser S α} : p.mark.Composed Allowed ↔ p.Composed Allowed := by
  simp [mark, Composed]

end Combinators

end Parser

def Grammar.Composed {S : Signature} (grammar : Grammar S) (Allowed : Kind) : Prop :=
  ∀ rule, (grammar.body rule).Composed Allowed

abbrev Grammar.IsPlain {S : Signature} (grammar : Grammar S) : Prop :=
  grammar.Composed .none

theorem Grammar.IsPlain.composed {S : Signature} {grammar : Grammar S} (hg : grammar.IsPlain)
    (Allowed : Kind) : grammar.Composed Allowed :=
  fun rule => Parser.IsPlain.composed (hg rule) Allowed

end Descent
