import RowFilter.Proofs.Text.Splitting
import RowFilter.Proofs.Text.Words
import RowFilter.Proofs.Traversal

/-!
# Blanks around separators

A filter is written with blanks around its separators, and the blanks stay with the pieces when it
is split. Moving them there turns a join by a separator with blanks into a join by the separator
itself, of texts with blanks around them (`exists_padded`). A separator without blanks does not
notice the blanks (`Padded.infix_iff`), so splitting undoes this join too, but for blanks around the
pieces (`splitAround_padded`).
-/

set_option autoImplicit false

namespace RowFilter.Text

variable {sep : List Char}

/-- The second text is the first one with blanks around it. -/
def Padded (x y : List Char) : Prop :=
  ∃ u v, allBlank u = true ∧ allBlank v = true ∧ y = u ++ x ++ v

/-- The blanks of a separator can be given to the pieces on either side. -/
theorem exists_padded (sep : List Char) {xs : List (List Char)} (hne : xs ≠ []) {u v : List Char}
    (hu : allBlank u = true) (hv : allBlank v = true) :
    ∃ ys, List.Forall₂ Padded xs ys ∧
      u ++ (' ' :: (sep ++ [' '])).intercalate xs ++ v = sep.intercalate ys := by
  have hspace : allBlank [' '] = true := by decide
  induction xs generalizing u with
  | nil => exact absurd rfl hne
  | cons x xs ih =>
    cases xs with
    | nil =>
      refine ⟨[u ++ x ++ v], .cons ⟨u, v, hu, hv, rfl⟩ .nil, ?_⟩
      rw [List.intercalate_singleton, List.intercalate_singleton]
    | cons x' xs =>
      obtain ⟨ys, hys, hjoin⟩ := ih (List.cons_ne_nil x' xs) hspace
      refine ⟨(u ++ x ++ [' ']) :: ys, .cons ⟨u, [' '], hu, hspace, rfl⟩ hys, ?_⟩
      have hys' : ys ≠ [] := by
        rintro rfl
        cases hys
      rw [List.intercalate_cons_cons, List.intercalate_cons_of_ne_nil hys', ← hjoin]
      simp

theorem infix_of_blank_append (hne : sep ≠ []) (hvisible : sep.any isBlank = false)
    {u s : List Char} (hu : allBlank u = true) (h : sep <:+: u ++ s) : sep <:+: s := by
  induction u with
  | nil => exact h
  | cons c u ih =>
    obtain ⟨hc, hu⟩ := (allBlank_cons c u).mp hu
    have hmem : c ∉ sep := fun hmem => List.any_eq_false.mp hvisible c hmem hc
    rcases infix_or_infix_of_not_mem (p := []) hmem h with h | h
    · exact absurd (List.infix_nil.mp h) hne
    · exact ih hu h

theorem infix_of_append_blank (hne : sep ≠ []) (hvisible : sep.any isBlank = false)
    {s v : List Char} (hv : allBlank v = true) (h : sep <:+: s ++ v) : sep <:+: s := by
  cases v with
  | nil => rwa [List.append_nil] at h
  | cons c v =>
    obtain ⟨hc, hv⟩ := (allBlank_cons c v).mp hv
    have hmem : c ∉ sep := fun hmem => List.any_eq_false.mp hvisible c hmem hc
    rcases infix_or_infix_of_not_mem hmem h with h | h
    · exact h
    · rw [← List.append_nil v] at h
      exact absurd (List.infix_nil.mp (infix_of_blank_append hne hvisible hv h)) hne

theorem Padded.infix_iff (hne : sep ≠ []) (hvisible : sep.any isBlank = false)
    {x y : List Char} (h : Padded x y) : sep <:+: y ↔ sep <:+: x := by
  obtain ⟨u, v, hu, hv, rfl⟩ := h
  constructor
  · intro hin
    have hin' := infix_of_append_blank hne hvisible hv hin
    exact infix_of_blank_append hne hvisible hu hin'
  · intro hin
    exact hin.trans ⟨u, v, rfl⟩

theorem Padded.refl (x : List Char) : Padded x x := ⟨[], [], rfl, rfl, by simp⟩

/-- Splitting undoes joining with blanks around the separator, but for blanks around the pieces. -/
theorem splitAround_padded (hsep : Marked sep) (hvisible : sep.any isBlank = false)
    {xs : List (List Char)} (hne : xs ≠ []) (hfree : ∀ x ∈ xs, ¬ sep <:+: x) {y : List Char}
    (hy : Padded ((' ' :: (sep ++ [' '])).intercalate xs) y) :
    List.Forall₂ Padded xs (splitAround sep y) := by
  obtain ⟨u, v, hu, hv, rfl⟩ := hy
  obtain ⟨ys, hys, hjoin⟩ := exists_padded sep hne hu hv
  have hysne : ys ≠ [] := fun hnil => hne ((eq_nil_iff_of_forall₂ hys).mpr hnil)
  have hysfree : ∀ y ∈ ys, ¬ sep <:+: y := by
    intro y hy
    obtain ⟨x, hx, hxy⟩ := exists_of_mem_forall₂ hys.flip hy
    exact fun hin => hfree x hx ((Padded.infix_iff hsep.ne_nil hvisible hxy).mp hin)
  rwa [hjoin, splitAround_intercalate hsep hysne hysfree]

end RowFilter.Text
