/-!
# Splitting at a separator

`splitAround sep s` cuts `s` at every occurrence of `sep`, taken from the left and without overlap.
`List.intercalate sep` puts the pieces together again. There is always a first piece, so the
recursion returns it beside the pieces that follow; a separator under way is a number of characters
still to be passed over, which keeps the recursion structural for separators of any length.
-/

set_option autoImplicit false

namespace RowFilter.Text

/-- The piece that runs from here to the next separator, and the pieces after that separator.
The number says how many characters of a separator are still to be passed over. -/
def splitFrom (sep : List Char) : Nat → List Char → List Char × List (List Char)
  | _, [] => ([], [])
  | skip + 1, _ :: r => splitFrom sep skip r
  | 0, c :: r =>
    if sep.isPrefixOf (c :: r) then
      let (piece, later) := splitFrom sep (sep.length - 1) r
      ([], piece :: later)
    else
      let (piece, later) := splitFrom sep 0 r
      (c :: piece, later)

/-- The pieces between consecutive occurrences of `sep`, which is not empty. -/
def splitAround (sep s : List Char) : List (List Char) :=
  let (piece, later) := splitFrom sep 0 s
  piece :: later

/-- What stands before the last `q`, or nothing if there is no `q`. -/
def beforeLast (q : Char) : List Char → Option (List Char)
  | [] => none
  | c :: r =>
    match beforeLast q r with
    | some front => some (c :: front)
    | none => if c = q then some [] else none

/-! ## Laws of splitting -/

/-- What is still to be passed over may as well be dropped. -/
theorem splitFrom_eq_drop (sep : List Char) (skip : Nat) (s : List Char) :
    splitFrom sep skip s = splitFrom sep 0 (s.drop skip) := by
  induction s generalizing skip with
  | nil => cases skip <;> rfl
  | cons c r ih =>
    cases skip with
    | zero => rfl
    | succ skip => rw [splitFrom, ih, List.drop_succ_cons]

theorem splitAround_nil (sep : List Char) : splitAround sep [] = [[]] := rfl

theorem splitAround_ne_nil (sep s : List Char) : splitAround sep s ≠ [] := by
  simp [splitAround]

/-- A separator in front is one cut, with nothing before it. -/
theorem splitAround_append {sep : List Char} (hsep : sep ≠ []) (r : List Char) :
    splitAround sep (sep ++ r) = [] :: splitAround sep r := by
  obtain ⟨c, cs, rfl⟩ := List.exists_cons_of_ne_nil hsep
  have hfront : (c :: cs).isPrefixOf (c :: (cs ++ r)) = true := by
    simp
  rw [List.cons_append, splitAround, splitFrom, if_pos hfront, splitFrom_eq_drop]
  simp [splitAround]

/-- A character that starts no separator belongs to the first piece. -/
theorem splitAround_cons {sep : List Char} {c : Char} {r : List Char}
    (h : sep.isPrefixOf (c :: r) = false) :
    splitAround sep (c :: r) = (splitAround sep r).modifyHead (c :: ·) := by
  simp [splitAround, splitFrom, h]

/-- Induction along the splitting of a text: it is empty, it starts with a separator, or its first
character starts none. -/
@[elab_as_elim]
theorem splitting_induction {sep : List Char} (hsep : sep ≠ []) {motive : List Char → Prop}
    (nil : motive []) (cut : ∀ r, motive r → motive (sep ++ r))
    (cons : ∀ c r, sep.isPrefixOf (c :: r) = false → motive r → motive (c :: r))
    (s : List Char) : motive s := by
  induction hn : s.length using Nat.strongRecOn generalizing s with
  | ind n ih =>
    cases s with
    | nil => exact nil
    | cons c r =>
      cases h : sep.isPrefixOf (c :: r) with
      | true =>
        obtain ⟨t, ht⟩ := List.isPrefixOf_iff_prefix.mp h
        have hlen : t.length < n := by
          have hpos := List.length_pos_iff.mpr hsep
          have := congrArg List.length ht
          simp only [List.length_append, List.length_cons] at this hn
          omega
        rw [← ht]
        exact cut t (ih t.length hlen t rfl)
      | false =>
        refine cons c r h (ih r.length ?_ r rfl)
        simp only [List.length_cons] at hn
        omega

/-- Joining the pieces gives the text back. -/
theorem intercalate_splitAround {sep : List Char} (hsep : sep ≠ []) (s : List Char) :
    sep.intercalate (splitAround sep s) = s := by
  induction s using splitting_induction hsep with
  | nil => simp [splitAround_nil, List.intercalate]
  | cut r ih =>
    obtain ⟨p, ps, hps⟩ := List.exists_cons_of_ne_nil (splitAround_ne_nil sep r)
    rw [splitAround_append hsep, hps, List.intercalate_cons_cons, ← hps, ih, List.nil_append]
  | cons c r h ih =>
    obtain ⟨p, ps, hps⟩ := List.exists_cons_of_ne_nil (splitAround_ne_nil sep r)
    rw [splitAround_cons h, hps, List.modifyHead_cons]
    rw [hps] at ih
    cases ps with
    | nil => simpa [List.intercalate] using ih
    | cons q qs =>
      rw [List.intercalate_cons_cons] at ih ⊢
      rw [← ih, List.cons_append, List.cons_append]

end RowFilter.Text
