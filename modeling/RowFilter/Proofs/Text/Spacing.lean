import RowFilter.Proofs.Text.Words

/-!
# Words and the blanks between them

A text is `Spaced` into some words when it is these words in order, with blanks around them that
may be missing at both ends only. Every text is spaced into its words and into no others
(`spaced_iff`), and not only the words but also the blanks are determined by the text
(`word_unique`).
-/

set_option autoImplicit false

namespace RowFilter.Text

/-- A text without blanks that is not empty. -/
def Visible (w : List Char) : Prop := w ≠ [] ∧ ∀ c ∈ w, isBlank c = false

/-- No word goes on in this text: it is empty or starts with a blank. -/
def Parted (s : List Char) : Prop := ∀ c ∈ s.head?, isBlank c = true

/-- The text consists of these words with blanks around them. -/
inductive Spaced : List Char → List (List Char) → Prop where
  | blank {u : List Char} : allBlank u = true → Spaced u []
  | word {u w rest : List Char} {ws : List (List Char)} : allBlank u = true → Visible w →
      Parted rest → Spaced rest ws → Spaced (u ++ (w ++ rest)) (w :: ws)

/-! ## Blanks in front -/

theorem parted_of_allBlank {u : List Char} (h : allBlank u = true) : Parted u :=
  fun c hc => List.all_eq_true.mp h c (List.mem_of_mem_head? hc)

theorem parted_append {u : List Char} (hne : u ≠ []) (h : allBlank u = true) (s : List Char) :
    Parted (u ++ s) := by
  obtain ⟨c, r, rfl⟩ := List.exists_cons_of_ne_nil hne
  exact parted_of_allBlank (u := [c]) (by simpa [allBlank] using ((allBlank_cons c r).mp h).1)

theorem Visible.head_append {w s : List Char} (hw : Visible w) :
    ∀ c ∈ (w ++ s).head?, isBlank c = false := by
  obtain ⟨c, r, rfl⟩ := List.exists_cons_of_ne_nil hw.1
  intro d hd
  rw [← Option.some.inj hd]
  exact hw.2 c List.mem_cons_self

/-- Where no word goes on, there are blanks in front of the next. -/
theorem Parted.ne_nil {u w s : List Char} (h : Parted (u ++ (w ++ s))) (hw : Visible w) :
    u ≠ [] := by
  rintro rfl
  obtain ⟨c, r, rfl⟩ := List.exists_cons_of_ne_nil hw.1
  have hblank : isBlank c = true := h c rfl
  rw [hw.2 c List.mem_cons_self] at hblank
  cases hblank

/-! ## The words of a text -/

theorem words_blank_append {u : List Char} (hu : allBlank u = true) (s : List Char) :
    words (u ++ s) = words s := by
  induction u with
  | nil => rfl
  | cons c u ih =>
    obtain ⟨hc, hu⟩ := (allBlank_cons c u).mp hu
    have hwords := words_append_blank hc [] (u ++ s)
    rwa [ih hu] at hwords

theorem words_append_of_parted {s rest : List Char} (h : Parted rest) :
    words (s ++ rest) = words s ++ words rest := by
  cases rest with
  | nil => simp [words]
  | cons c rest =>
    have hc : isBlank c = true := h c rfl
    have hrest : words (c :: rest) = words rest := words_append_blank hc [] rest
    rw [words_append_blank hc, hrest]

theorem words_allBlank {u : List Char} (hu : allBlank u = true) : words u = [] := by
  rw [← List.append_nil u, words_blank_append hu]
  rfl

/-- Blanks around a text are in none of its words. -/
theorem words_pad {u v : List Char} (hu : allBlank u = true) (hv : allBlank v = true)
    (s : List Char) : words (u ++ s ++ v) = words s := by
  rw [words_append_of_parted (parted_of_allBlank hv), words_blank_append hu, words_allBlank hv,
    List.append_nil]

theorem Spaced.words_eq {s : List Char} {ws : List (List Char)} (h : Spaced s ws) :
    words s = ws := by
  induction h with
  | blank hu => exact words_allBlank hu
  | word hu hw hparted _ ih =>
    rw [words_blank_append hu, words_append_of_parted hparted, words_eq_singleton hw.1 hw.2, ih]
    rfl

theorem Spaced.cons_blank {c : Char} {s : List Char} {ws : List (List Char)} (h : Spaced s ws)
    (hc : isBlank c = true) : Spaced (c :: s) ws := by
  cases h with
  | blank hu => exact .blank ((allBlank_cons c s).mpr ⟨hc, hu⟩)
  | @word u w rest ws hu hw hparted hrest =>
    exact .word (u := c :: u) ((allBlank_cons c u).mpr ⟨hc, hu⟩) hw hparted hrest

/-- A character that is not blank belongs to the word behind it, if there is no blank between. -/
theorem Spaced.exists_cons {c : Char} {s : List Char} {ws : List (List Char)} (h : Spaced s ws)
    (hc : isBlank c = false) : ∃ ws', Spaced (c :: s) ws' := by
  have hword : Visible [c] := ⟨List.cons_ne_nil c [], by simpa using hc⟩
  cases h with
  | blank hu => exact ⟨_, .word (u := []) rfl hword (parted_of_allBlank hu) (.blank hu)⟩
  | @word u w rest ws hu hw hparted hrest =>
    cases u with
    | nil =>
      have hlonger : Visible (c :: w) := by
        refine ⟨List.cons_ne_nil c w, fun d hd => ?_⟩
        rcases List.mem_cons.mp hd with rfl | hd
        · exact hc
        · exact hw.2 d hd
      exact ⟨_, .word (u := []) rfl hlonger hparted hrest⟩
    | cons d u =>
      exact ⟨_, .word (u := []) rfl hword (parted_append (List.cons_ne_nil d u) hu _)
        (.word hu hw hparted hrest)⟩

theorem exists_spaced (s : List Char) : ∃ ws, Spaced s ws := by
  induction s with
  | nil => exact ⟨[], .blank rfl⟩
  | cons c s ih =>
    obtain ⟨ws, hs⟩ := ih
    cases hc : isBlank c with
    | true => exact ⟨ws, hs.cons_blank hc⟩
    | false => exact hs.exists_cons hc

/-- **The words of a text are the words it consists of.** -/
theorem spaced_iff {s : List Char} {ws : List (List Char)} : Spaced s ws ↔ words s = ws := by
  constructor
  · exact Spaced.words_eq
  · rintro rfl
    obtain ⟨ws, hs⟩ := exists_spaced s
    rwa [hs.words_eq]

/-! ## Only one way to cut -/

theorem takeWhile_append_of_head {p : Char → Bool} {a b : List Char} (ha : ∀ c ∈ a, p c = true)
    (hb : ∀ c ∈ b.head?, p c = false) : (a ++ b).takeWhile p = a := by
  rw [List.takeWhile_append_of_pos ha]
  cases b with
  | nil => simp
  | cons c b => simp [hb c rfl]

/-- Where a run of characters ends is determined by the text. -/
theorem run_unique {p : Char → Bool} {a a' b b' : List Char} (ha : ∀ c ∈ a, p c = true)
    (ha' : ∀ c ∈ a', p c = true) (hb : ∀ c ∈ b.head?, p c = false)
    (hb' : ∀ c ∈ b'.head?, p c = false) (h : a ++ b = a' ++ b') : a = a' ∧ b = b' := by
  have heq : a = a' := by
    rw [← takeWhile_append_of_head ha hb, h, takeWhile_append_of_head ha' hb']
  subst heq
  exact ⟨rfl, List.append_cancel_left h⟩

/-- The first word, the blanks in front of it and the text behind it are determined by the text. -/
theorem word_unique {u u' w w' s s' : List Char} (hu : allBlank u = true)
    (hu' : allBlank u' = true) (hw : Visible w) (hw' : Visible w') (hs : Parted s)
    (hs' : Parted s') (h : u ++ (w ++ s) = u' ++ (w' ++ s')) : u = u' ∧ w = w' ∧ s = s' := by
  obtain ⟨rfl, hbehind⟩ := run_unique (List.all_eq_true.mp hu) (List.all_eq_true.mp hu')
    hw.head_append hw'.head_append h
  have hvisible : ∀ {w : List Char}, Visible w → ∀ c ∈ w, (!isBlank c) = true := by
    intro w hw c hc
    rw [hw.2 c hc]
    rfl
  have hblank : ∀ {s : List Char}, Parted s → ∀ c ∈ s.head?, (!isBlank c) = false := by
    intro s hs c hc
    rw [hs c hc]
    rfl
  exact ⟨rfl, run_unique (hvisible hw) (hvisible hw') (hblank hs) (hblank hs') hbehind⟩

end RowFilter.Text
