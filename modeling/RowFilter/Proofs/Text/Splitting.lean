import RowFilter.Text.Split

/-!
# Splitting is exact

The pieces of a text are free of the separator, and they are the only pieces it has: a join of
free pieces splits into these pieces again. The second law needs that no separator can lie across
the seam of a piece and a separator. It holds for a *marked* separator, whose first character does
not come again in it, because an overlapping one would have to start with that character.

For the same reason two separators that start with one mark and differ right after it do not
disturb each other (`not_infix_intercalate`): joining with the one makes no place for the other.
-/

set_option autoImplicit false

namespace RowFilter.Text

variable {sep : List Char}

/-! ## The pieces of a text -/

theorem prefix_intercalate (p : List Char) (ps : List (List Char)) :
    p <+: sep.intercalate (p :: ps) := by
  cases ps with
  | nil => exact ⟨[], by rw [List.append_nil, List.intercalate_singleton]⟩
  | cons q ps =>
    rw [List.intercalate_cons_cons, List.append_assoc]
    exact List.prefix_append _ _

theorem infix_intercalate_of_mem {p : List Char} {ps : List (List Char)} (h : p ∈ ps) :
    p <:+: sep.intercalate ps := by
  induction ps with
  | nil => exact absurd h List.not_mem_nil
  | cons q ps ih =>
    rcases List.mem_cons.mp h with rfl | h
    · exact (prefix_intercalate p ps).isInfix
    · obtain ⟨q', ps, rfl⟩ := List.exists_cons_of_ne_nil (List.ne_nil_of_mem h)
      rw [List.intercalate_cons_cons]
      exact List.infix_append_of_infix_right (ih h)

theorem infix_of_mem_splitAround (hsep : sep ≠ []) {p s : List Char} (h : p ∈ splitAround sep s) :
    p <:+: s := by
  have hjoin : p <:+: sep.intercalate (splitAround sep s) := infix_intercalate_of_mem h
  rwa [intercalate_splitAround hsep] at hjoin

/-- No piece holds the separator. -/
theorem not_infix_of_mem_splitAround (hsep : sep ≠ []) {p s : List Char}
    (h : p ∈ splitAround sep s) : ¬ sep <:+: p := by
  induction s using splitting_induction hsep generalizing p with
  | nil =>
    rw [splitAround_nil, List.mem_singleton] at h
    rw [h, List.infix_nil]
    exact hsep
  | cut r ih =>
    rw [splitAround_append hsep] at h
    rcases List.mem_cons.mp h with rfl | h
    · rw [List.infix_nil]
      exact hsep
    · exact ih h
  | cons c r hc ih =>
    obtain ⟨q, qs, hqs⟩ := List.exists_cons_of_ne_nil (splitAround_ne_nil sep r)
    rw [splitAround_cons hc, hqs, List.modifyHead_cons] at h
    rcases List.mem_cons.mp h with rfl | h
    · -- A separator at the front of the first piece would be one at the front of the text.
      rw [List.infix_cons_iff, not_or]
      refine ⟨fun hfront => ?_, ih (by simp [hqs])⟩
      have hq : q <+: r := by
        rw [← intercalate_splitAround hsep r, hqs]
        exact prefix_intercalate q qs
      have hcut := hfront.trans (List.cons_prefix_cons.mpr ⟨rfl, hq⟩)
      rw [← List.isPrefixOf_iff_prefix, hc] at hcut
      cases hcut
    · exact ih (by simp [hqs, h])

/-- A text without a separator is one piece. -/
theorem splitAround_eq_singleton {s : List Char} (h : ¬ sep <:+: s) : splitAround sep s = [s] := by
  induction s with
  | nil => exact splitAround_nil sep
  | cons c r ih =>
    rw [List.infix_cons_iff, not_or, ← List.isPrefixOf_iff_prefix, Bool.not_eq_true] at h
    rw [splitAround_cons h.1, ih h.2, List.modifyHead_cons]

theorem eq_of_splitAround_eq_singleton (hsep : sep ≠ []) {s p : List Char}
    (h : splitAround sep s = [p]) : s = p := by
  rw [← intercalate_splitAround hsep s, h, List.intercalate_singleton]

/-! ## Seams -/

/-- A text that does not hold the character `m` stops in front of it. -/
theorem prefix_of_prefix_append_cons {m : Char} {t p r : List Char} (h : t <+: p ++ m :: r)
    (hm : m ∉ t) : t <+: p := by
  induction p generalizing t with
  | nil =>
    cases t with
    | nil => exact List.nil_prefix
    | cons d t =>
      rw [List.nil_append, List.cons_prefix_cons] at h
      exact absurd (by simp [h.1]) hm
  | cons c p ih =>
    cases t with
    | nil => exact List.nil_prefix
    | cons d t =>
      rw [List.cons_append, List.cons_prefix_cons] at h
      exact List.cons_prefix_cons.mpr ⟨h.1, ih h.2 fun hmem => hm (List.mem_cons_of_mem d hmem)⟩

/-- A text that starts with `m` and goes on without it, and that starts in front of an `m`, ends in
front of it. -/
theorem prefix_of_prefix_cons_append {m c : Char} {t p r : List Char} (hm : m ∉ t)
    (h : m :: t <+: c :: (p ++ m :: r)) : m :: t <+: c :: p := by
  rw [List.cons_prefix_cons] at h ⊢
  exact ⟨h.1, prefix_of_prefix_append_cons h.2 hm⟩

/-- A text lies on one side of a character that it does not hold. -/
theorem infix_or_infix_of_not_mem {m : Char} {t p r : List Char} (hm : m ∉ t)
    (h : t <:+: p ++ m :: r) : t <:+: p ∨ t <:+: r := by
  induction p with
  | nil =>
    rw [List.nil_append, List.infix_cons_iff] at h
    rcases h with h | h
    · exact Or.inl (prefix_of_prefix_append_cons (p := []) h hm).isInfix
    · exact Or.inr h
  | cons c p ih =>
    rw [List.cons_append, List.infix_cons_iff] at h
    rcases h with h | h
    · exact Or.inl (prefix_of_prefix_append_cons (p := c :: p) h hm).isInfix
    · exact (ih h).imp_left List.infix_cons

/-- A text that starts with `m` and goes on without it lies on one side of the place in front
of an `m`. -/
theorem infix_or_infix_of_cons {m : Char} {t p r : List Char} (hm : m ∉ t)
    (h : m :: t <:+: p ++ m :: r) : m :: t <:+: p ∨ m :: t <:+: m :: r := by
  induction p with
  | nil => exact Or.inr h
  | cons c p ih =>
    rw [List.cons_append, List.infix_cons_iff] at h
    rcases h with h | h
    · exact Or.inl (prefix_of_prefix_cons_append hm h).isInfix
    · exact (ih h).imp_left List.infix_cons

/-- A text that starts with `m` does not start where there is none. -/
theorem infix_of_infix_append {m : Char} {t p r : List Char} (hm : m ∉ p)
    (h : m :: t <:+: p ++ r) : m :: t <:+: r := by
  induction p with
  | nil => exact h
  | cons c p ih =>
    rw [List.mem_cons, not_or] at hm
    rw [List.cons_append, List.infix_cons_iff, List.cons_prefix_cons] at h
    rcases h with ⟨hc, -⟩ | h
    · exact absurd hc hm.1
    · exact ih hm.2 h

/-! ## Marked separators -/

/-- The first character of the separator does not come again in it. -/
def Marked (sep : List Char) : Prop := ∃ m t, sep = m :: t ∧ m ∉ t

theorem Marked.ne_nil (h : Marked sep) : sep ≠ [] := by
  obtain ⟨m, t, rfl, -⟩ := h
  exact List.cons_ne_nil m t

/-- The first piece ends where the first separator starts. -/
theorem splitAround_append_of_free (hsep : Marked sep) {p : List Char} (hp : ¬ sep <:+: p)
    (r : List Char) : splitAround sep (p ++ sep ++ r) = p :: splitAround sep r := by
  induction p with
  | nil => exact splitAround_append hsep.ne_nil r
  | cons c p ih =>
    rw [List.infix_cons_iff, not_or] at hp
    have hnot : sep.isPrefixOf (c :: (p ++ sep ++ r)) = false := by
      rw [← Bool.not_eq_true, List.isPrefixOf_iff_prefix]
      -- One that starts in the piece ends in it, in front of the mark of the next.
      intro hfront
      obtain ⟨m, t, rfl, hm⟩ := hsep
      rw [List.append_assoc, List.cons_append] at hfront
      exact hp.1 (prefix_of_prefix_cons_append hm hfront)
    rw [List.cons_append, List.cons_append, splitAround_cons hnot, ih hp.2, List.modifyHead_cons]

/-- **Splitting undoes joining**, when the pieces are free of the separator. -/
theorem splitAround_intercalate (hsep : Marked sep) {ps : List (List Char)} (hne : ps ≠ [])
    (hfree : ∀ p ∈ ps, ¬ sep <:+: p) : splitAround sep (sep.intercalate ps) = ps := by
  induction ps with
  | nil => exact absurd rfl hne
  | cons p ps ih =>
    have hp := hfree p List.mem_cons_self
    cases ps with
    | nil => rw [List.intercalate_singleton, splitAround_eq_singleton hp]
    | cons q ps =>
      rw [List.intercalate_cons_cons, splitAround_append_of_free hsep hp,
        ih (List.cons_ne_nil q ps) fun q' hq' => hfree q' (List.mem_cons_of_mem p hq')]

/-- The separators start with one mark, which comes again in neither, and differ after it. -/
def Apart (sep sep' : List Char) : Prop :=
  ∃ m c c' t t', sep = m :: c :: t ∧ sep' = m :: c' :: t' ∧ m ∉ c :: t ∧ m ∉ c' :: t' ∧ c ≠ c'

/-- Pieces free of one separator are joined by the other to a text free of the first. -/
theorem not_infix_intercalate {sep' : List Char} (h : Apart sep sep') {ps : List (List Char)}
    (hfree : ∀ p ∈ ps, ¬ sep <:+: p) : ¬ sep <:+: sep'.intercalate ps := by
  obtain ⟨m, c, c', t, t', rfl, rfl, hm, hm', hne⟩ := h
  induction ps with
  | nil => simp [List.intercalate]
  | cons p ps ih =>
    have hp := hfree p List.mem_cons_self
    cases ps with
    | nil => rwa [List.intercalate_singleton]
    | cons q ps =>
      rw [List.intercalate_cons_cons, List.append_assoc, List.cons_append]
      intro hin
      -- It would lie in `p`, start at the mark of the other separator, or lie behind that mark.
      rcases infix_or_infix_of_cons hm hin with hin | hin
      · exact hp hin
      · rcases List.infix_cons_iff.mp hin with hfront | hin
        · rw [List.cons_prefix_cons, List.cons_append, List.cons_prefix_cons] at hfront
          exact hne hfront.2.1
        · exact ih (fun q' hq' => hfree q' (List.mem_cons_of_mem p hq'))
            (infix_of_infix_append hm' hin)

end RowFilter.Text
