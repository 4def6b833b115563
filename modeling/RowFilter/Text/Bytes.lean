/-!
# The UTF-8 view of a text

Positions inside a filter are counted in bytes and texts are ordered by their bytes, while every
other rule speaks of characters. This module is the bridge: the length and the bytes of a text,
and the cut of a text at a byte position, which exists only between two characters.
-/

set_option autoImplicit false

namespace RowFilter.Text

/-- How many bytes the text takes in UTF-8. -/
def byteLength : List Char → Nat
  | [] => 0
  | c :: r => c.utf8Size + byteLength r

def bytes : List Char → List UInt8
  | [] => []
  | c :: r => String.utf8EncodeChar c ++ bytes r

/-- The text before and after byte `n`. There is no cut inside a character or past the end. -/
def cutAt : Nat → List Char → Option (List Char × List Char)
  | 0, s => some ([], s)
  | _ + 1, [] => none
  | n + 1, c :: r =>
    if c.utf8Size ≤ n + 1 then
      (cutAt (n + 1 - c.utf8Size) r).map fun (front, back) => (c :: front, back)
    else none

/-- Does `needle` stand somewhere in the text, as consecutive characters? The empty text stands
in every text. -/
def occursIn (needle : List Char) : List Char → Bool
  | [] => needle.isEmpty
  | c :: r => needle.isPrefixOf (c :: r) || occursIn needle r

/-! ## Lengths and cuts -/

@[simp]
theorem byteLength_append (s t : List Char) : byteLength (s ++ t) = byteLength s + byteLength t := by
  induction s with
  | nil => simp [byteLength]
  | cons c r ih => simp [byteLength, ih, Nat.add_assoc]

@[simp]
theorem bytes_append (s t : List Char) : bytes (s ++ t) = bytes s ++ bytes t := by
  induction s with
  | nil => rfl
  | cons c r ih => simp [bytes, ih]

/-- A text can be cut where its front ends. -/
theorem cutAt_append (s t : List Char) : cutAt (byteLength s) (s ++ t) = some (s, t) := by
  induction s with
  | nil => simp [byteLength, cutAt]
  | cons c r ih =>
    have hc : 0 < c.utf8Size := c.utf8Size_pos
    obtain ⟨n, hn⟩ : ∃ n, c.utf8Size + byteLength r = n + 1 := ⟨_, (Nat.succ_pred_eq_of_pos (by omega)).symm⟩
    rw [byteLength, hn, List.cons_append, cutAt, if_pos (by omega)]
    rw [show n + 1 - c.utf8Size = byteLength r by omega, ih]
    rfl

/-- A cut loses nothing, and its front has the length that was asked for. -/
theorem eq_append_of_cutAt {n : Nat} {s front back : List Char}
    (h : cutAt n s = some (front, back)) : s = front ++ back ∧ byteLength front = n := by
  induction s generalizing n front with
  | nil =>
    cases n with
    | zero => simp_all [cutAt, byteLength]
    | succ n => simp [cutAt] at h
  | cons c r ih =>
    cases n with
    | zero => simp_all [cutAt, byteLength]
    | succ n =>
      rw [cutAt] at h
      split at h
      · next hle =>
        obtain ⟨⟨front', back'⟩, hcut, heq⟩ := Option.map_eq_some_iff.1 h
        simp only [Prod.mk.injEq] at heq
        obtain ⟨rfl, rfl⟩ := heq
        obtain ⟨rfl, hlen⟩ := ih hcut
        exact ⟨rfl, by rw [byteLength, hlen]; omega⟩
      · exact absurd h (by simp)

end RowFilter.Text
