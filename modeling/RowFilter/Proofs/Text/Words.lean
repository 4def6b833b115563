import Mathlib.Data.List.TakeWhile
import RowFilter.Text.Blank

/-!
# Trimming and words

A text is blanks, its trimmed part, and blanks again, and that is the only way to write it with a
*trimmed* text in the middle (`exists_eq_trim`, `trim_pad`). Words are the pieces between blanks
that are not empty; they split where a blank stands, and each lies in the text in one stretch.
-/

set_option autoImplicit false

namespace RowFilter.Text

/-- The text neither starts nor ends with a blank. -/
structure Trimmed (s : List Char) : Prop where
  head : ∀ c ∈ s.head?, isBlank c = false
  last : ∀ c ∈ s.getLast?, isBlank c = false

theorem allBlank_cons (c : Char) (r : List Char) :
    allBlank (c :: r) = true ↔ isBlank c = true ∧ allBlank r = true := by
  simp [allBlank]

theorem not_mem_of_allBlank {c : Char} {u : List Char} (hc : isBlank c = false)
    (hu : allBlank u = true) : c ∉ u := by
  intro hmem
  rw [List.all_eq_true.mp hu c hmem] at hc
  cases hc

/-! ## Blanks at the end -/

theorem trimEnd_cons (c : Char) (r : List Char) :
    trimEnd (c :: r) = if trimEnd r = [] ∧ isBlank c = true then [] else c :: trimEnd r := by
  rw [trimEnd]
  cases trimEnd r with
  | nil => by_cases hc : isBlank c = true <;> simp [hc]
  | cons d t => simp

theorem exists_eq_trimEnd (s : List Char) : ∃ v, allBlank v = true ∧ s = trimEnd s ++ v := by
  induction s with
  | nil => exact ⟨[], rfl, rfl⟩
  | cons c r ih =>
    obtain ⟨v, hv, hr⟩ := ih
    rw [trimEnd_cons]
    by_cases h : trimEnd r = [] ∧ isBlank c = true
    · rw [if_pos h]
      rw [h.1, List.nil_append] at hr
      exact ⟨c :: r, (allBlank_cons c r).mpr ⟨h.2, hr ▸ hv⟩, rfl⟩
    · rw [if_neg h]
      exact ⟨v, hv, by rw [List.cons_append, ← hr]⟩

theorem last_trimEnd (s : List Char) : ∀ c ∈ (trimEnd s).getLast?, isBlank c = false := by
  induction s with
  | nil => exact fun c hc => absurd hc (by simp [trimEnd])
  | cons c r ih =>
    rw [trimEnd_cons]
    by_cases h : trimEnd r = [] ∧ isBlank c = true
    · rw [if_pos h]
      exact fun d hd => absurd hd (by simp)
    · rw [if_neg h]
      cases hr : trimEnd r with
      | nil =>
        intro d hd
        have hcd : c = d := by simpa using hd
        rw [← hcd]
        exact Bool.eq_false_iff.mpr fun hc => h ⟨hr, hc⟩
      | cons e t =>
        rw [hr] at ih
        exact ih

theorem trimEnd_append {t v : List Char} (ht : ∀ c ∈ t.getLast?, isBlank c = false)
    (hv : allBlank v = true) : trimEnd (t ++ v) = t := by
  induction t with
  | nil =>
    induction v with
    | nil => rfl
    | cons c v ih =>
      obtain ⟨hc, hv⟩ := (allBlank_cons c v).mp hv
      rw [List.nil_append] at ih ⊢
      rw [trimEnd_cons, if_pos ⟨ih hv, hc⟩]
  | cons c t ih =>
    rw [List.cons_append, trimEnd_cons]
    -- The last character decides; in front of it the induction hypothesis applies.
    cases t with
    | nil =>
      have hc : isBlank c = false := ht c rfl
      rw [ih (by simp), if_neg (by simp [hc])]
    | cons d t =>
      rw [ih ht, if_neg (by simp)]

/-! ## Blanks on either side -/

/-- A text is its trimmed part with the blanks around it. -/
theorem exists_eq_trim (s : List Char) :
    ∃ v, allBlank v = true ∧ s = s.takeWhile isBlank ++ trim s ++ v := by
  obtain ⟨v, hv, h⟩ := exists_eq_trimEnd (trimStart s)
  refine ⟨v, hv, ?_⟩
  rw [List.append_assoc, trim, ← h]
  exact List.takeWhile_append_dropWhile.symm

theorem trim_infix (s : List Char) : trim s <:+: s := by
  obtain ⟨v, -, h⟩ := exists_eq_trim s
  exact ⟨_, v, h.symm⟩

theorem allBlank_takeWhile (s : List Char) : allBlank (s.takeWhile isBlank) = true :=
  List.all_takeWhile

theorem trimmed_trim (s : List Char) : Trimmed (trim s) := by
  refine ⟨fun c hc => ?_, last_trimEnd _⟩
  obtain ⟨v, -, h⟩ := exists_eq_trimEnd (trimStart s)
  -- The first character of the trimmed part is the first one that is not blank.
  have hhead : (s.dropWhile isBlank).head? = some c := by
    show (trimStart s).head? = some c
    rw [h, List.head?_append, ← trim, Option.mem_def.mp hc]
    rfl
  have hnot := List.head?_dropWhile_not isBlank s
  rw [hhead] at hnot
  exact hnot

theorem trim_pad {u t v : List Char} (hu : allBlank u = true) (ht : Trimmed t)
    (hv : allBlank v = true) : trim (u ++ t ++ v) = t := by
  have hdrop : trimStart (u ++ t ++ v) = trimStart (t ++ v) := by
    rw [trimStart, List.append_assoc]
    exact List.dropWhile_append_of_pos (List.all_eq_true.mp hu)
  rw [trim, hdrop]
  cases t with
  | nil =>
    have hnil : trimStart v = [] := List.dropWhile_eq_nil_iff.mpr (List.all_eq_true.mp hv)
    rw [List.nil_append, hnil]
    rfl
  | cons c t =>
    have hc : isBlank c = false := ht.head c rfl
    rw [trimStart, List.cons_append, List.dropWhile_cons, hc]
    exact trimEnd_append ht.last hv

theorem Trimmed.trim_eq {t : List Char} (ht : Trimmed t) : trim t = t := by
  simpa using trim_pad (u := []) (v := []) rfl ht rfl

theorem Trimmed.takeWhile_eq {t : List Char} (ht : Trimmed t) : t.takeWhile isBlank = [] := by
  cases t with
  | nil => rfl
  | cons c t => simp [ht.head c rfl]

/-! ## Words -/

/-- The pieces between the characters of a class lie in the text and hold none of them. -/
theorem splitOnP_pieces (p : Char → Bool) (s : List Char) :
    ∃ r rs, s.splitOnP p = r :: rs ∧ r <+: s ∧
      ∀ w ∈ r :: rs, w <:+: s ∧ ∀ c ∈ w, p c = false := by
  induction s with
  | nil => exact ⟨[], [], rfl, List.prefix_rfl, by simp⟩
  | cons c s ih =>
    obtain ⟨r, rs, hsplit, hpre, hall⟩ := ih
    rw [List.splitOnP_cons_eq_if_modifyHead, hsplit]
    cases hc : p c with
    | true =>
      refine ⟨[], r :: rs, rfl, List.nil_prefix, fun w hw => ?_⟩
      rcases List.mem_cons.mp hw with rfl | hw
      · simp
      · exact ⟨List.infix_cons (hall w hw).1, (hall w hw).2⟩
    | false =>
      have hr := hall r List.mem_cons_self
      refine ⟨c :: r, rs, rfl, List.cons_prefix_cons.mpr ⟨rfl, hpre⟩, fun w hw => ?_⟩
      rcases List.mem_cons.mp hw with rfl | hw
      · refine ⟨(List.cons_prefix_cons.mpr ⟨rfl, hpre⟩).isInfix, fun d hd => ?_⟩
        rcases List.mem_cons.mp hd with rfl | hd
        · exact hc
        · exact hr.2 d hd
      · have hw' := hall w (List.mem_cons_of_mem r hw)
        exact ⟨List.infix_cons hw'.1, hw'.2⟩

theorem of_mem_splitOnP {p : Char → Bool} {s w : List Char} (h : w ∈ s.splitOnP p) :
    w <:+: s ∧ ∀ c ∈ w, p c = false := by
  obtain ⟨r, rs, hsplit, -, hall⟩ := splitOnP_pieces p s
  exact hall w (hsplit ▸ h)

theorem of_mem_words {s w : List Char} (h : w ∈ words s) :
    w ≠ [] ∧ w <:+: s ∧ ∀ c ∈ w, isBlank c = false := by
  obtain ⟨hw, hne⟩ := List.mem_filter.mp h
  exact ⟨by simpa using hne, of_mem_splitOnP hw⟩

/-- Words end where a blank stands. -/
theorem words_append_blank {c : Char} (hc : isBlank c = true) (x y : List Char) :
    words (x ++ c :: y) = words x ++ words y := by
  rw [words, List.splitOnP_append_cons x y hc, List.filter_append]
  rfl

theorem words_eq_singleton {w : List Char} (hne : w ≠ []) (h : ∀ c ∈ w, isBlank c = false) :
    words w = [w] := by
  rw [words, List.splitOnP_eq_singleton h]
  simp [hne]

end RowFilter.Text
