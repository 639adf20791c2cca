/-!
# Text measured in bytes

A text is a list of characters; a place in it is the number of UTF-8 bytes before it. A text can
be cut at a place exactly when the place is a boundary: not past the end and not inside a
character. `splitAt?_eq_some_iff` says so, and the other cuts are read off it.
-/

namespace Descent

abbrev Text := List Char

namespace Text

/-- The number of bytes of the UTF-8 form. -/
def size : Text → Nat
  | [] => 0
  | c :: cs => c.utf8Size + size cs

@[simp]
theorem size_nil : size [] = 0 := rfl

@[simp]
theorem size_cons (c : Char) (cs : Text) : size (c :: cs) = c.utf8Size + size cs := rfl

@[simp]
theorem size_append (a b : Text) : size (a ++ b) = size a + size b := by
  induction a with
  | nil => simp
  | cons c a ih => simp [ih, Nat.add_assoc]

theorem size_eq_zero_iff {t : Text} : size t = 0 ↔ t = [] := by
  cases t with
  | nil => simp
  | cons c t =>
    have := c.utf8Size_pos
    simp only [size_cons, reduceCtorEq, iff_false]
    omega

/-- The place at which each character begins, in a text that itself begins at a place. -/
def charStarts : Text → Nat → List Nat
  | [], _ => []
  | c :: cs, n => n :: charStarts cs (n + c.utf8Size)

theorem getElem?_charStarts (t : Text) (n i : Nat) :
    (charStarts t n)[i]? = if i < t.length then some (n + size (t.take i)) else none := by
  induction t generalizing n i with
  | nil => rfl
  | cons c t ih =>
    cases i with
    | zero => simp [charStarts]
    | succ i => simp [charStarts, ih, Nat.add_assoc]

/-- Whether nothing remains from a place on; places past the end count as the end. -/
def isAtEnd (t : Text) (n : Nat) : Bool :=
  size t ≤ n

/-- The characters before and after a place, if the text can be cut there. -/
def splitAt? : Text → Nat → Option (Text × Text)
  | t, 0 => some ([], t)
  | [], _ + 1 => none
  | c :: cs, n + 1 =>
    if c.utf8Size ≤ n + 1 then
      (splitAt? cs (n + 1 - c.utf8Size)).map fun parts => (c :: parts.1, parts.2)
    else none

theorem splitAt?_eq_some_iff {t a b : Text} {n : Nat} :
    splitAt? t n = some (a, b) ↔ t = a ++ b ∧ size a = n := by
  induction t generalizing n a with
  | nil =>
    cases n with
    | zero =>
      simp only [splitAt?, Option.some.injEq, Prod.mk.injEq, List.nil_eq_append_iff,
        size_eq_zero_iff]
      grind
    | succ n =>
      simp only [splitAt?, reduceCtorEq, List.nil_eq_append_iff, false_iff]
      rintro ⟨⟨rfl, rfl⟩, h⟩
      simp at h
  | cons c t ih =>
    cases n with
    | zero =>
      simp only [splitAt?, Option.some.injEq, Prod.mk.injEq, size_eq_zero_iff]
      grind
    | succ n =>
      have hc := c.utf8Size_pos
      cases a with
      | nil => by_cases h : c.utf8Size ≤ n + 1 <;> simp [splitAt?, h]
      | cons d a =>
        by_cases h : c.utf8Size ≤ n + 1
        · simp only [splitAt?, h, if_true, Option.map_eq_some_iff, Prod.exists, Prod.mk.injEq,
            List.cons.injEq, List.cons_append, size_cons]
          constructor
          · rintro ⟨x, y, hxy, ⟨rfl, rfl⟩, rfl⟩
            obtain ⟨rfl, hs⟩ := ih.1 hxy
            exact ⟨⟨rfl, rfl⟩, by omega⟩
          · rintro ⟨⟨rfl, rfl⟩, hs⟩
            exact ⟨a, b, ih.2 ⟨rfl, by omega⟩, ⟨rfl, rfl⟩, rfl⟩
        · simp only [splitAt?, h, if_false, List.cons_append, List.cons.injEq, size_cons,
            reduceCtorEq, false_iff]
          rintro ⟨⟨rfl, rfl⟩, hs⟩
          omega

/-- A place where a text can be cut: neither past the end nor inside a character. -/
def IsBoundary (t : Text) (n : Nat) : Prop :=
  ∃ a b, t = a ++ b ∧ size a = n

theorem isBoundary_iff {t : Text} {n : Nat} : IsBoundary t n ↔ (splitAt? t n).isSome := by
  simp only [IsBoundary, Option.isSome_iff_exists, Prod.exists, splitAt?_eq_some_iff]

instance (t : Text) (n : Nat) : Decidable (IsBoundary t n) :=
  decidable_of_iff _ isBoundary_iff.symm

theorem IsBoundary.le_size {t : Text} {n : Nat} (h : IsBoundary t n) : n ≤ size t := by
  obtain ⟨a, b, rfl, rfl⟩ := h
  simp

theorem isBoundary_zero (t : Text) : IsBoundary t 0 :=
  ⟨[], t, rfl, rfl⟩

theorem isBoundary_size (t : Text) : IsBoundary t (size t) :=
  ⟨t, [], by simp, rfl⟩

def before? (t : Text) (n : Nat) : Option Text :=
  (splitAt? t n).map (·.1)

def after? (t : Text) (n : Nat) : Option Text :=
  (splitAt? t n).map (·.2)

/-- The text between two places; nothing if they are in the wrong order. -/
def slice? (t : Text) (start stop : Nat) : Option Text :=
  if start ≤ stop then (after? t start).bind (before? · (stop - start)) else none

theorem before?_eq_some_iff {t a : Text} {n : Nat} :
    before? t n = some a ↔ a <+: t ∧ size a = n := by
  simp only [before?, Option.map_eq_some_iff, Prod.exists, splitAt?_eq_some_iff]
  constructor
  · rintro ⟨a, b, ⟨rfl, hs⟩, rfl⟩
    exact ⟨List.prefix_append a b, hs⟩
  · rintro ⟨⟨b, rfl⟩, hs⟩
    exact ⟨a, b, ⟨rfl, hs⟩, rfl⟩

theorem after?_eq_some_iff {t b : Text} {n : Nat} :
    after? t n = some b ↔ ∃ a, t = a ++ b ∧ size a = n := by
  simp only [after?, Option.map_eq_some_iff, Prod.exists, splitAt?_eq_some_iff]
  constructor
  · rintro ⟨a, b, h, rfl⟩
    exact ⟨a, h⟩
  · rintro ⟨a, h⟩
    exact ⟨a, b, h, rfl⟩

/-- Further on by the size of what comes first, the rest remains. -/
@[simp]
theorem after?_zero (t : Text) : after? t 0 = some t :=
  after?_eq_some_iff.mpr ⟨[], rfl, rfl⟩

theorem after?_add {t a b : Text} {n : Nat} (h : after? t n = some (a ++ b)) :
    after? t (n + size a) = some b := by
  obtain ⟨before, rfl, rfl⟩ := after?_eq_some_iff.mp h
  exact after?_eq_some_iff.mpr ⟨before ++ a, (List.append_assoc before a b).symm, by simp⟩

theorem after?_eq_none_iff {t : Text} {n : Nat} : after? t n = none ↔ ¬ IsBoundary t n := by
  rw [isBoundary_iff, Option.not_isSome_iff_eq_none, after?, Option.map_eq_none_iff]

theorem slice?_eq_some_iff {t m : Text} {start stop : Nat} :
    slice? t start stop = some m ↔
      ∃ a b, t = a ++ m ++ b ∧ size a = start ∧ size (a ++ m) = stop := by
  unfold slice?
  split
  · simp only [Option.bind_eq_some_iff, after?_eq_some_iff, before?_eq_some_iff]
    constructor
    · rintro ⟨r, ⟨a, rfl, rfl⟩, ⟨b, rfl⟩, h⟩
      exact ⟨a, b, by simp, rfl, by simp only [size_append]; omega⟩
    · rintro ⟨a, b, rfl, rfl, rfl⟩
      exact ⟨m ++ b, ⟨a, by simp, rfl⟩, ⟨b, rfl⟩, by simp⟩
  · simp only [reduceCtorEq, false_iff]
    rintro ⟨a, b, rfl, rfl, rfl⟩
    simp at *

theorem slice?_self {t : Text} {n : Nat} (h : t.IsBoundary n) : t.slice? n n = some [] := by
  obtain ⟨a, b, rfl, rfl⟩ := h
  exact slice?_eq_some_iff.mpr ⟨a, b, by simp, rfl, by simp⟩

theorem isBoundary_of_slice? {t m : Text} {start stop : Nat} (h : t.slice? start stop = some m) :
    t.IsBoundary stop := by
  obtain ⟨a, b, rfl, -, rfl⟩ := slice?_eq_some_iff.mp h
  exact ⟨a ++ m, b, rfl, rfl⟩

theorem slice?_append {t m n : Text} {start middle stop : Nat}
    (h : t.slice? start middle = some m) (h' : t.slice? middle stop = some n) :
    t.slice? start stop = some (m ++ n) := by
  obtain ⟨a, b, rfl, rfl, rfl⟩ := slice?_eq_some_iff.mp h
  obtain ⟨a', b', hsplit, hsize, rfl⟩ := slice?_eq_some_iff.mp h'
  have hrest : some b = some (n ++ b') := by
    rw [← after?_eq_some_iff.mpr ⟨a ++ m, rfl, rfl⟩]
    exact after?_eq_some_iff.mpr ⟨a', by rw [hsplit, List.append_assoc], hsize⟩
  cases hrest
  refine slice?_eq_some_iff.mpr ⟨a, b', by simp only [List.append_assoc], rfl, ?_⟩
  simp only [size_append] at hsize ⊢
  omega

end Text

end Descent
