import Descent.Proofs.PositionOrder
import Mathlib.Data.List.DropRight

/-!
# Positions in one pass

A reader who goes through a text character by character knows the position all along: a line feed
begins a row, and every other character, however many bytes it has, is one column. The scan comes to
the same as three passes of different units, which count the bytes of line feeds, look for the last
of them from behind, and count the characters after it.
-/

namespace Descent

namespace Text

/-- The UTF-8 form. -/
def bytes (t : Text) : List UInt8 :=
  t.flatMap String.utf8EncodeChar

@[simp]
theorem bytes_concat (t : Text) (c : Char) :
    bytes (t ++ [c]) = bytes t ++ String.utf8EncodeChar c := by
  simp [bytes]

@[simp]
theorem length_bytes (t : Text) : t.bytes.length = t.size := by
  induction t using List.reverseRecOn with
  | nil => rfl
  | append_singleton t c ih => simp [ih]

/-- No byte of a character of several bytes is one of a character of its own. -/
theorem eq_newline_of_mem_utf8EncodeChar {c : Char} (h : 0x0A ∈ String.utf8EncodeChar c) :
    c = '\n' := by
  rw [← Char.toNat_inj]
  have hnewline : ('\n' : Char).toNat = 10 := rfl
  have hval : c.val.toNat = c.toNat := rfl
  unfold String.utf8EncodeChar at h
  -- One byte is the code of the character; of several, each is 128 at least.
  dsimp only at h
  split_ifs at h <;>
    simp only [List.mem_cons, List.not_mem_nil, or_false, ← UInt8.toNat_inj, UInt8.toNat_ofNat',
      UInt8.reduceToNat, Nat.reducePow] at h <;>
    omega

theorem count_newline_bytes (t : Text) : t.bytes.count 0x0A = t.count '\n' := by
  induction t using List.reverseRecOn with
  | nil => rfl
  | append_singleton t c ih =>
    rw [bytes_concat, List.count_append, List.count_append, ih]
    by_cases hc : c = '\n'
    · subst hc
      rfl
    · have hbytes : 0x0A ∉ String.utf8EncodeChar c := fun h =>
        hc (eq_newline_of_mem_utf8EncodeChar h)
      rw [List.count_eq_zero_of_not_mem hbytes]
      simp [hc]

/-- Behind the last line feed among the bytes, or at the beginning if there is none. -/
def lineStart (bytes : List UInt8) : Nat :=
  (bytes.rdropWhile (· != 0x0A)).length

theorem lineStart_append {front back : List UInt8} (h : 0x0A ∉ back) :
    lineStart (front ++ back) = lineStart front := by
  unfold lineStart List.rdropWhile
  rw [List.reverse_append, List.dropWhile_append_of_pos]
  intro byte hbyte
  simpa using ne_of_mem_of_not_mem (List.mem_reverse.mp hbyte) h

/-- The search for the last line feed ends where a text can be cut. -/
theorem after?_lineStart (t : Text) :
    t.after? (lineStart t.bytes) = some (Position.lastLine t) := by
  induction t using List.reverseRecOn with
  | nil => rfl
  | append_singleton t c ih =>
    rw [Position.lastLine_concat, bytes_concat]
    by_cases hc : c = '\n'
    · subst hc
      have hend : lineStart (bytes t ++ String.utf8EncodeChar '\n') = size (t ++ ['\n']) := by
        have hfeed : String.utf8EncodeChar '\n' = [0x0A] := by decide
        rw [hfeed, lineStart, List.rdropWhile_concat_neg _ _ _ (by decide), List.length_append,
          length_bytes, size_append]
        rfl
      rw [hend]
      exact after?_eq_some_iff.mpr ⟨t ++ ['\n'], by simp, rfl⟩
    · rw [lineStart_append fun h => hc (eq_newline_of_mem_utf8EncodeChar h), if_neg hc]
      obtain ⟨before, hsplit, hsize⟩ := after?_eq_some_iff.mp ih
      exact after?_eq_some_iff.mpr ⟨before, by rw [← List.append_assoc, ← hsplit], hsize⟩

/-- Up to a boundary, or up to the end for a place past it, there are whole characters. -/
theorem exists_consumed {input : Text} {offset : Nat}
    (h : input.size ≤ offset ∨ input.IsBoundary offset) :
    ∃ consumed rest, input = consumed ++ rest ∧ consumed.size = min offset input.size := by
  rcases h with hpast | hboundary
  · exact ⟨input, [], by simp, (Nat.min_eq_right hpast).symm⟩
  · have hle := hboundary.le_size
    obtain ⟨consumed, rest, hsplit, hsize⟩ := hboundary
    exact ⟨consumed, rest, hsplit, by rw [Nat.min_eq_left hle, hsize]⟩

end Text

namespace Position

/-- The position after one character more. -/
def advance (p : Position) (c : Char) : Position :=
  if c = '\n' then ⟨p.row + 1, 0⟩ else ⟨p.row, p.col + 1⟩

def onePass (t : Text) : Position :=
  t.foldl advance ⟨0, 0⟩

/-- Row and column found by the three passes over what lies before an offset. -/
def threePasses? (consumed : Text) : Option Position := do
  let line ← consumed.after? (Text.lineStart consumed.bytes)
  return { row := consumed.bytes.count 0x0A, col := line.length }

theorem ending_eq_onePass (t : Text) : ending t = onePass t := by
  induction t using List.reverseRecOn with
  | nil => rfl
  | append_singleton t c ih => rw [ending_concat, ih, onePass, onePass, List.foldl_concat, advance]

theorem threePasses?_eq (consumed : Text) : threePasses? consumed = some (ending consumed) := by
  unfold threePasses?
  rw [Text.after?_lineStart, Text.count_newline_bytes]
  rfl

/-- Behind another text, the rows go on from its last row, and so do the columns of a row that
begins in it. -/
theorem ending_append_of_split (a between : Text) :
    ending (a ++ between) =
      { row := (ending a).row + (ending between).row
        col := if '\n' ∈ between then (ending between).col
          else (ending a).col + (ending between).col } := by
  have hrow : (ending between).row = 0 ↔ '\n' ∉ between := List.count_eq_zero
  rw [ending_append, followedBy]
  by_cases h : '\n' ∈ between <;> simp [h, hrow]

/-- The position of an offset is that of a single pass over the characters before it, whatever their
sizes, and so it can be found from the position at which a text in front ends. -/
theorem resolve?_eq_onePass :
    (∀ (input : Text) (offset : Nat), input.size ≤ offset ∨ input.IsBoundary offset →
      ∃ consumed rest, input = consumed ++ rest ∧ consumed.size = min offset input.size ∧
        resolve? input offset = some (onePass consumed) ∧
        threePasses? consumed = some (onePass consumed)) ∧
    ∀ (a b : Text) (offset : Nat), b.size ≤ offset ∨ b.IsBoundary offset →
      ∃ last here between rest, resolve? a a.size = some last ∧ resolve? b offset = some here ∧
        b = between ++ rest ∧ between.size = min offset b.size ∧
        resolve? (a ++ b) (a.size + offset) = some
          { row := last.row + here.row
            col := if '\n' ∈ between then here.col else last.col + here.col } := by
  constructor
  · intro input offset h
    obtain ⟨consumed, rest, hsplit, hsize⟩ := Text.exists_consumed h
    refine ⟨consumed, rest, hsplit, hsize, ?_⟩
    rw [← ending_eq_onePass]
    exact ⟨resolve?_of_consumed hsplit hsize, threePasses?_eq consumed⟩
  · intro a b offset h
    obtain ⟨between, rest, hsplit, hsize⟩ := Text.exists_consumed h
    have hlast := resolve?_append a []
    rw [List.append_nil] at hlast
    have hconsumed : Text.size (a ++ between) =
        min (a.size + offset) (Text.size (a ++ b)) := by
      simp only [Text.size_append]
      omega
    have happend : a ++ b = (a ++ between) ++ rest := by rw [hsplit, List.append_assoc]
    refine ⟨ending a, ending between, between, rest, hlast, resolve?_of_consumed hsplit hsize,
      hsplit, hsize, ?_⟩
    rw [resolve?_of_consumed happend hconsumed, ending_append_of_split]

/-- Both a carriage return and a character of two bytes are one column. -/
theorem resolve?_eq_onePass_feed :
    (∃ consumed rest, "é\r\nbü".toList = consumed ++ rest ∧ Text.size consumed = 5 ∧
      resolve? "é\r\nbü".toList 5 = some (onePass consumed) ∧
      threePasses? consumed = some (onePass consumed)) ∧
    ∃ last here between rest, resolve? "é\r\nb".toList 5 = some last ∧
      resolve? "ü\n".toList 2 = some here ∧ "ü\n".toList = between ++ rest ∧
      Text.size between = 2 ∧
      resolve? "é\r\nbü\n".toList 7 = some
        { row := last.row + here.row
          col := if '\n' ∈ between then here.col else last.col + here.col } :=
  ⟨resolve?_eq_onePass.1 "é\r\nbü".toList 5 (.inr (by decide)),
    resolve?_eq_onePass.2 "é\r\nb".toList "ü\n".toList 2 (.inr (by decide))⟩

end Position

end Descent
