import Mathlib.Data.List.Basic
import RowFilter.Proofs.Syntax.ClauseText
import RowFilter.Proofs.Text.Spacing

/-!
# The grammar of a clause

A clause is read from its words and quotes. A `Layout` says instead how its text is put together:
a path, an operator and a literal, with blanks between them, and the literal either a word or any
text in quotes. Reading accepts exactly the texts that have a layout with a path of segments that
are not empty, there is one layout at most, and what is read is what stands in it. A text without
such a layout has exactly one defect.
-/

set_option autoImplicit false

namespace RowFilter

namespace Text

/-- What follows the last quote is not before it. -/
theorem beforeLast_append {q : Char} {v : List Char} (hv : q ∉ v) (s : List Char) :
    beforeLast q (s ++ v) = beforeLast q s := by
  induction s with
  | nil => exact beforeLast_eq_none_iff.mpr hv
  | cons c s ih => rw [List.cons_append, beforeLast, beforeLast, ih]

end Text

open Text (Spaced Visible Parted allBlank words)

/-! ## Segments -/

/-- A word is a path if no segment of it is empty, because a word has no blanks. -/
theorem Path.read?_eq_some_of_isWord {w : List Char} (hw : Clause.IsWord w) {p : Path} :
    read? w = some p ↔ [] ∉ w.splitOn '.' ∧ p = ⟨(w.splitOn '.').map String.ofList⟩ := by
  have hvalid : Valid ⟨(w.splitOn '.').map String.ofList⟩ ↔ [] ∉ w.splitOn '.' := by
    constructor
    · rintro ⟨-, hsegments⟩ hempty
      exact absurd (hsegments _ (List.mem_map_of_mem hempty)) (by decide)
    · intro h
      refine ⟨by simp, fun s hs => ?_⟩
      obtain ⟨seg, hseg, rfl⟩ := List.mem_map.mp hs
      obtain ⟨c, r, rfl⟩ := List.exists_cons_of_ne_nil fun hnil => h (hnil ▸ hseg)
      have hin : c ∈ w := by
        rw [List.splitOn_eq_splitOnP] at hseg
        exact (Text.of_mem_splitOnP hseg).1.subset List.mem_cons_self
      simp [allBlank, (hw.2 c hin).1]
  rw [read?, ofSegments?]
  by_cases hsegments : [] ∉ w.splitOn '.'
  · rw [if_pos (hvalid.mpr hsegments), Option.some.injEq, eq_comm]
    exact (and_iff_right hsegments).symm
  · rw [if_neg fun h => hsegments (hvalid.mp h)]
    simp only [reduceCtorEq, false_iff, not_and]
    exact fun h => absurd h hsegments

namespace Clause

/-! ## Layouts -/

theorem IsWord.visible {w : List Char} (hw : IsWord w) : Visible w :=
  ⟨hw.1, fun c hc => (hw.2 c hc).1⟩

theorem quote_not_mem_of_allBlank {u : List Char} (hu : allBlank u = true) : quote ∉ u :=
  Text.not_mem_of_allBlank (by decide) hu

/-- The parts of the text of a clause. -/
@[ext]
structure Layout where
  lead : List Char
  path : List Char
  gap : List Char
  operator : List Char
  margin : List Char
  /-- Does the literal stand in quotes? -/
  quoted : Bool
  literal : List Char
  trail : List Char

namespace Layout

/-- What stands in front of the literal. -/
def front (l : Layout) : List Char := l.lead ++ (l.path ++ (l.gap ++ (l.operator ++ l.margin)))

def text (l : Layout) : List Char :=
  l.front ++ if l.quoted then quote :: (l.literal ++ quote :: l.trail) else l.literal ++ l.trail

/-- The path and the operator are words, with blanks in front of them, between them and behind
them. The literal is a word between blanks, or any text in quotes with no quote behind it. -/
structure Shaped (l : Layout) : Prop where
  lead : allBlank l.lead = true
  path : IsWord l.path
  gap : l.gap ≠ [] ∧ allBlank l.gap = true
  operator : IsWord l.operator
  margin : allBlank l.margin = true
  word : l.quoted = false → l.margin ≠ [] ∧ IsWord l.literal ∧ allBlank l.trail = true
  closed : l.quoted = true → quote ∉ l.trail

/-- No segment of the path is empty. -/
structure Proper (l : Layout) : Prop extends l.Shaped where
  segments : [] ∉ l.path.splitOn '.'

/-- The clause with the parts of the layout. Its place starts behind the blanks in front. -/
def clause (l : Layout) (offset : Nat) : Clause :=
  ⟨⟨(l.path.splitOn '.').map String.ofList⟩, String.ofList l.operator, String.ofList l.literal,
    ⟨offset + Text.byteLength l.lead, Text.byteLength (Text.trim l.text)⟩⟩

theorem Shaped.quote_not_mem_front {l : Layout} (h : l.Shaped) : quote ∉ l.front := by
  simp [front, quote_not_mem_of_allBlank h.lead, h.path.quote_not_mem,
    quote_not_mem_of_allBlank h.gap.2, h.operator.quote_not_mem, quote_not_mem_of_allBlank h.margin]

theorem Shaped.spaced_front {l : Layout} (h : l.Shaped) : Spaced l.front [l.path, l.operator] :=
  .word h.lead h.path.visible (Text.parted_append h.gap.1 h.gap.2 _)
    (.word h.gap.2 h.operator.visible (Text.parted_of_allBlank h.margin) (.blank h.margin))

theorem text_of_quoted {l : Layout} (h : l.quoted = true) :
    l.text = l.front ++ quote :: (l.literal ++ quote :: l.trail) := by
  rw [text, if_pos h]

theorem text_of_not_quoted {l : Layout} (h : l.quoted = false) :
    l.text = l.lead ++ (l.path ++ (l.gap ++ (l.operator ++ (l.margin ++ (l.literal ++ l.trail))))) := by
  rw [text, h]
  simp [front]

/-- The literal is in quotes exactly if there are quotes. -/
theorem Shaped.quote_mem_text {l : Layout} (h : l.Shaped) :
    quote ∈ l.text ↔ l.quoted = true := by
  cases hquoted : l.quoted with
  | true => simp [text_of_quoted hquoted]
  | false =>
    obtain ⟨-, hliteral, htrail⟩ := h.word hquoted
    have hfront := h.quote_not_mem_front
    simp [text, hquoted, hfront, hliteral.quote_not_mem, quote_not_mem_of_allBlank htrail]

theorem Shaped.spaced_text {l : Layout} (h : l.Shaped) (hquoted : l.quoted = false) :
    Spaced l.text [l.path, l.operator, l.literal] := by
  obtain ⟨hmargin, hliteral, htrail⟩ := h.word hquoted
  rw [text_of_not_quoted hquoted]
  exact .word h.lead h.path.visible (Text.parted_append h.gap.1 h.gap.2 _)
    (.word h.gap.2 h.operator.visible (Text.parted_append hmargin h.margin _)
      (.word h.margin hliteral.visible (Text.parted_of_allBlank htrail) (.blank htrail)))

end Layout

/-- Two words with the blanks around them, and what stands behind. -/
theorem exists_of_spaced_cons_cons {s path operator : List Char} {ws : List (List Char)}
    (h : Spaced s (path :: operator :: ws)) :
    ∃ lead gap rest, s = lead ++ (path ++ (gap ++ (operator ++ rest))) ∧ allBlank lead = true ∧
      (gap ≠ [] ∧ allBlank gap = true) ∧ Parted rest ∧ Spaced rest ws := by
  cases h with
  | word hlead _ hparted hbehind =>
    cases hbehind with
    | word hgap hoperator hrest hws =>
      exact ⟨_, _, _, rfl, hlead, ⟨hparted.ne_nil hoperator, hgap⟩, hrest, hws⟩

/-- The parts of a text are those of its layout. -/
theorem parts_eq_ok_iff_layout {text path operator literal : List Char} :
    parts text = .ok (path, operator, literal) ↔
      ∃ l : Layout, l.Shaped ∧ l.text = text ∧
        l.path = path ∧ l.operator = operator ∧ l.literal = literal := by
  constructor
  · intro h
    obtain ⟨hpath, hoperator, -⟩ := of_parts h
    rcases parts_eq_ok.mp h with ⟨hquote, hwords⟩ | ⟨front, back, rfl, -, hback, hwords⟩
    · have hliteral := isWord_of_mem_words (w := literal) hquote (by simp [hwords])
      obtain ⟨lead, gap, rest, rfl, hlead, hgap, hparted, hrest⟩ :=
        exists_of_spaced_cons_cons (Text.spaced_iff.mpr hwords)
      cases hrest with
      | @word margin _ trail _ hmargin _ _ htrail =>
        cases htrail with
        | blank htrail =>
          have hmargin' := hparted.ne_nil hliteral.visible
          exact ⟨⟨lead, path, gap, operator, margin, false, literal, trail⟩,
            ⟨hlead, hpath, hgap, hoperator, hmargin, fun _ => ⟨hmargin', hliteral, htrail⟩,
              fun h => Bool.noConfusion h⟩,
            Layout.text_of_not_quoted rfl, rfl, rfl, rfl⟩
    · obtain ⟨lead, gap, margin, rfl, hlead, hgap, -, hmargin⟩ :=
        exists_of_spaced_cons_cons (Text.spaced_iff.mpr hwords)
      cases hmargin with
      | blank hmargin =>
        exact ⟨⟨lead, path, gap, operator, margin, true, literal, back⟩,
          ⟨hlead, hpath, hgap, hoperator, hmargin, fun h => Bool.noConfusion h, fun _ => hback⟩,
          Layout.text_of_quoted rfl, rfl, rfl, rfl⟩
  · rintro ⟨l, hl, rfl, rfl, rfl, rfl⟩
    cases hquoted : l.quoted with
    | true =>
      exact parts_eq_ok.mpr (Or.inr ⟨l.front, l.trail, Layout.text_of_quoted hquoted,
        hl.quote_not_mem_front, hl.closed hquoted, Text.spaced_iff.mp hl.spaced_front⟩)
    | false =>
      have hquote : quote ∉ l.text := by simp [hl.quote_mem_text, hquoted]
      exact parts_eq_ok.mpr (Or.inl ⟨hquote, Text.spaced_iff.mp (hl.spaced_text hquoted)⟩)

/-! ## One layout at most -/

namespace Layout

/-- The parts in front of the literal are determined by a text that starts with them. -/
theorem Shaped.front_unique {l l' : Layout} (h : l.Shaped) (h' : l'.Shaped) {s s' : List Char}
    (hs : Parted s) (hs' : Parted s')
    (heq : l.lead ++ (l.path ++ (l.gap ++ (l.operator ++ s))) =
      l'.lead ++ (l'.path ++ (l'.gap ++ (l'.operator ++ s')))) :
    l.lead = l'.lead ∧ l.path = l'.path ∧ l.gap = l'.gap ∧ l.operator = l'.operator ∧ s = s' := by
  obtain ⟨hlead, hpath, hbehind⟩ := Text.word_unique h.lead h'.lead h.path.visible h'.path.visible
    (Text.parted_append h.gap.1 h.gap.2 _) (Text.parted_append h'.gap.1 h'.gap.2 _) heq
  obtain ⟨hgap, hoperator, hrest⟩ := Text.word_unique h.gap.2 h'.gap.2 h.operator.visible
    h'.operator.visible hs hs' hbehind
  exact ⟨hlead, hpath, hgap, hoperator, hrest⟩

theorem eq_of_quoted {l l' : Layout} (h : l.Shaped) (h' : l'.Shaped) (hquoted : l.quoted = true)
    (hquoted' : l'.quoted = true) (htext : l.text = l'.text) : l = l' := by
  rw [text_of_quoted hquoted, text_of_quoted hquoted'] at htext
  have hfree : ∀ {l : Layout}, l.Shaped → ∀ c ∈ l.front, decide (c ≠ quote) = true := by
    intro l h c hc
    exact decide_eq_true fun heq => h.quote_not_mem_front (heq ▸ hc)
  -- The fronts end at the first quote, and the literals at the last one.
  obtain ⟨hfront, hbehind⟩ := Text.run_unique (hfree h) (hfree h') (by simp) (by simp) htext
  obtain ⟨hlead, hpath, hgap, hoperator, hmargin⟩ := h.front_unique h'
    (Text.parted_of_allBlank h.margin) (Text.parted_of_allBlank h'.margin) hfront
  have hinner := List.tail_eq_of_cons_eq hbehind
  have hlast : ∀ {l : Layout}, l.Shaped → l.quoted = true →
      Text.beforeLast quote (l.literal ++ quote :: l.trail) = some l.literal :=
    fun h hquoted => Text.beforeLast_eq_some_iff.mpr ⟨_, rfl, h.closed hquoted⟩
  have hliteral : l.literal = l'.literal := by
    rw [← Option.some.injEq, ← hlast h hquoted, hinner, hlast h' hquoted']
  have htrail : l.trail = l'.trail := by
    rw [hliteral] at hinner
    exact List.tail_eq_of_cons_eq (List.append_cancel_left hinner)
  exact Layout.ext hlead hpath hgap hoperator hmargin (hquoted.trans hquoted'.symm) hliteral htrail

theorem eq_of_not_quoted {l l' : Layout} (h : l.Shaped) (h' : l'.Shaped)
    (hquoted : l.quoted = false) (hquoted' : l'.quoted = false) (htext : l.text = l'.text) :
    l = l' := by
  rw [text_of_not_quoted hquoted, text_of_not_quoted hquoted'] at htext
  obtain ⟨hmargin, hliteral, htrail⟩ := h.word hquoted
  obtain ⟨hmargin', hliteral', htrail'⟩ := h'.word hquoted'
  obtain ⟨hlead, hpath, hgap, hoperator, hrest⟩ := h.front_unique h'
    (Text.parted_append hmargin h.margin _) (Text.parted_append hmargin' h'.margin _) htext
  obtain ⟨hmargin, hliteral, htrail⟩ := Text.word_unique h.margin h'.margin hliteral.visible
    hliteral'.visible (Text.parted_of_allBlank htrail) (Text.parted_of_allBlank htrail') hrest
  exact Layout.ext hlead hpath hgap hoperator hmargin (hquoted.trans hquoted'.symm) hliteral htrail

/-- **A text has one layout at most.** -/
theorem Shaped.unique {l l' : Layout} (h : l.Shaped) (h' : l'.Shaped) (htext : l.text = l'.text) :
    l = l' := by
  have hquoted : l.quoted = l'.quoted := by
    rw [Bool.eq_iff_iff, ← h.quote_mem_text, ← h'.quote_mem_text, htext]
  cases hl : l.quoted with
  | true => exact eq_of_quoted h h' hl (hquoted ▸ hl) htext
  | false => exact eq_of_not_quoted h h' hl (hquoted ▸ hl) htext

end Layout

/-! ## Defects -/

/-- What is wrong with a text that is no clause. A single quote comes first, then the number of
words, and the path is looked at last. -/
inductive Defective (text : List Char) : ClauseDefect → Prop where
  | unclosed : text.count quote = 1 → Defective text .unclosedQuote
  /-- There are not two words before the first of several quotes. -/
  | beforeQuote {front rest : List Char} {ws : List (List Char)} : 2 ≤ text.count quote →
      text = front ++ quote :: rest → quote ∉ front → Spaced front ws → ws.length ≠ 2 →
      Defective text (.tokenCount 2 ws.length)
  /-- There are not three words and no quote. -/
  | unquoted {ws : List (List Char)} : text.count quote = 0 → Spaced text ws → ws.length ≠ 3 →
      Defective text (.tokenCount 3 ws.length)
  /-- Nothing is wrong but a segment of the path. -/
  | path {l : Layout} : l.Shaped → l.text = text → [] ∈ l.path.splitOn '.' →
      Defective text .emptyPathSegment

theorem count_quote_append {front : List Char} (h : quote ∉ front) (rest : List Char) :
    (front ++ quote :: rest).count quote = rest.count quote + 1 := by
  rw [List.count_append, List.count_eq_zero.mpr h, List.count_cons_self, Nat.zero_add]

/-- Blanks around a text change none of its parts. -/
theorem parts_pad {u v : List Char} (hu : allBlank u = true) (hv : allBlank v = true)
    (s : List Char) : parts (u ++ s ++ v) = parts s := by
  have hquote := quote_not_mem_of_allBlank hu
  have hquote' := quote_not_mem_of_allBlank hv
  by_cases hs : quote ∈ s
  · obtain ⟨front, rest, rfl, hfront⟩ := List.eq_append_cons_of_mem hs
    have htext : u ++ (front ++ quote :: rest) ++ v = (u ++ front) ++ quote :: (rest ++ v) := by
      simp
    obtain ⟨htake, hdrop⟩ := cut_at_quote rest hfront
    have hfront' : quote ∉ u ++ front := by simp [hquote, hfront]
    obtain ⟨htake', hdrop'⟩ := cut_at_quote (rest ++ v) hfront'
    rw [htext]
    simp only [parts, htake, hdrop, htake', hdrop', Text.beforeLast_append hquote',
      Text.words_blank_append hu]
  · have hs' : quote ∉ u ++ s ++ v := by simp [hquote, hquote', hs]
    simp only [parts, dropWhile_of_quote_not_mem hs, dropWhile_of_quote_not_mem hs',
      Text.words_pad hu hv]

theorem parts_trim (s : List Char) : parts (Text.trim s) = parts s := by
  obtain ⟨v, hv, hs⟩ := Text.exists_eq_trim s
  rw [← parts_pad (Text.allBlank_takeWhile s) hv, ← hs]

/-- A text that has no parts has the defect that is reported. -/
theorem defective_of_parts_eq_error {text : List Char} {reason : ClauseDefect}
    (h : parts text = .error reason) : Defective text reason := by
  by_cases hquote : quote ∈ text
  · obtain ⟨front, rest, rfl, hfront⟩ := List.eq_append_cons_of_mem hquote
    obtain ⟨htake, hdrop⟩ := cut_at_quote rest hfront
    have hcount := count_quote_append hfront rest
    simp only [parts, htake, hdrop] at h
    split at h
    · next hlast =>
      cases h
      rw [List.count_eq_zero.mpr (Text.beforeLast_eq_none_iff.mp hlast)] at hcount
      exact .unclosed hcount
    · next literal hlast =>
      have hmem : quote ∈ rest := by
        by_contra hnot
        rw [Text.beforeLast_eq_none_iff.mpr hnot] at hlast
        cases hlast
      have hpos := List.count_pos_iff.mpr hmem
      split at h
      · cases h
      · next hwords =>
        cases h
        refine .beforeQuote (by omega) rfl hfront (Text.spaced_iff.mpr rfl) fun hlength => ?_
        obtain ⟨path, operator, hpair⟩ := List.length_eq_two.mp hlength
        exact hwords path operator hpair
  · simp only [parts, dropWhile_of_quote_not_mem hquote] at h
    split at h
    · cases h
    · next hwords =>
      cases h
      refine .unquoted (List.count_eq_zero.mpr hquote) (Text.spaced_iff.mpr rfl) fun hlength => ?_
      obtain ⟨path, operator, literal, htriple⟩ := List.length_eq_three.mp hlength
      exact hwords path operator literal htriple

/-- The defects of a text are what is reported for it: that it has no parts, or that the first of
its parts is no path. -/
theorem defective_iff {text : List Char} {reason : ClauseDefect} :
    Defective text reason ↔ parts text = .error reason ∨
      ∃ path operator literal, parts text = .ok (path, operator, literal) ∧
        Path.read? path = none ∧ reason = .emptyPathSegment := by
  constructor
  · intro h
    cases h with
    | unclosed hcount =>
      obtain ⟨front, rest, rfl, hfront⟩ :=
        List.eq_append_cons_of_mem (List.count_pos_iff.mp (by omega : 0 < text.count quote))
      have hdrop := (cut_at_quote rest hfront).2
      rw [count_quote_append hfront, Nat.add_eq_right, List.count_eq_zero] at hcount
      simp only [parts, hdrop, Text.beforeLast_eq_none_iff.mpr hcount]
      exact Or.inl trivial
    | @beforeQuote front rest ws hcount htext hfront hws hlength =>
      subst htext
      obtain ⟨htake, hdrop⟩ := cut_at_quote rest hfront
      rw [count_quote_append hfront] at hcount
      have hmem : quote ∈ rest := List.count_pos_iff.mp (by omega)
      cases hlast : Text.beforeLast quote rest with
      | none => exact absurd hmem (Text.beforeLast_eq_none_iff.mp hlast)
      | some literal =>
        simp only [parts, htake, hdrop, hlast, hws.words_eq]
        split
        · exact absurd rfl hlength
        · exact Or.inl rfl
    | unquoted hcount hws hlength =>
      simp only [parts, dropWhile_of_quote_not_mem (List.count_eq_zero.mp hcount), hws.words_eq]
      split
      · exact absurd rfl hlength
      · exact Or.inl rfl
    | @path l hl htext hempty =>
      refine Or.inr ⟨_, _, _, parts_eq_ok_iff_layout.mpr ⟨l, hl, htext, rfl, rfl, rfl⟩, ?_, rfl⟩
      rw [Option.eq_none_iff_forall_ne_some]
      exact fun p hp => ((Path.read?_eq_some_of_isWord hl.path).mp hp).1 hempty
  · rintro (h | ⟨path, operator, literal, hparts, hpath, rfl⟩)
    · exact defective_of_parts_eq_error h
    · obtain ⟨l, hl, htext, rfl, rfl, rfl⟩ := parts_eq_ok_iff_layout.mp hparts
      refine .path hl htext ?_
      by_contra hnot
      rw [(Path.read?_eq_some_of_isWord hl.path).mpr ⟨hnot, rfl⟩] at hpath
      cases hpath

/-! ## Reading -/

theorem Layout.Shaped.span_clause {l : Layout} (h : l.Shaped) {p : Piece} (htext : l.text = p.text) :
    (l.clause p.offset).span = spanOf p := by
  have hlead : l.text.takeWhile Text.isBlank = l.lead := by
    rw [Layout.text, Layout.front, List.append_assoc, List.append_assoc]
    exact Text.takeWhile_append_of_head (List.all_eq_true.mp h.lead) h.path.visible.head_append
  rw [spanOf, ← htext, hlead]
  rfl

/-- What is read is what stands in the layout of the text. -/
theorem read_eq_ok_iff_layout {p : Piece} {c : Clause} :
    read p = .ok c ↔ ∃ l : Layout, l.Proper ∧ l.text = p.text ∧ c = l.clause p.offset := by
  rw [read_eq_ok, parts_trim, parts_eq_ok_iff_layout]
  constructor
  · rintro ⟨⟨l, hl, htext, hpath, hoperator, hliteral⟩, hread, hspan⟩
    rw [← hpath] at hread
    obtain ⟨hsegments, hsplit⟩ := (Path.read?_eq_some_of_isWord hl.path).mp hread
    refine ⟨l, ⟨hl, hsegments⟩, htext, ?_⟩
    obtain ⟨path, operator, literal, span⟩ := c
    dsimp only at hsplit hoperator hliteral hspan
    rw [hspan, ← hl.span_clause htext, hsplit, Layout.clause, hoperator, hliteral,
      String.ofList_toList, String.ofList_toList]
  · rintro ⟨l, hl, htext, rfl⟩
    have hread : Path.read? l.path = some (l.clause p.offset).path :=
      (Path.read?_eq_some_of_isWord hl.path).mpr ⟨hl.segments, rfl⟩
    have hpath := (Path.read?_eq_some.mp hread).2.2
    refine ⟨⟨l, hl.toShaped, htext, hpath.symm, ?_, ?_⟩, ?_, hl.span_clause htext⟩
    · exact String.toList_ofList.symm
    · exact String.toList_ofList.symm
    · rw [hpath, hread]

/-- A text is refused for its defect, and reported without the blanks around it. -/
theorem read_eq_error_iff_defective {p : Piece} {e : ParseError} :
    read p = .error e ↔ ∃ reason, Defective p.text reason ∧
      e = .malformedClause (String.ofList (Text.trim p.text)) (spanOf p) reason := by
  constructor
  · intro h
    dsimp only [read] at h
    rw [parts_trim] at h
    split at h
    · next reason hparts =>
      cases h
      exact ⟨reason, defective_iff.mpr (Or.inl hparts), rfl⟩
    · next path operator literal hparts =>
      split at h
      · next hpath =>
        cases h
        exact ⟨_, defective_iff.mpr (Or.inr ⟨path, operator, literal, hparts, hpath, rfl⟩), rfl⟩
      · cases h
  · rintro ⟨reason, hdefect, rfl⟩
    rcases defective_iff.mp hdefect with hparts | ⟨path, operator, literal, hparts, hpath, rfl⟩
    · simp only [read, parts_trim, hparts]
    · simp only [read, parts_trim, hparts, hpath]

/-- **The grammar of a clause.** Reading accepts the texts that have a layout whose path has no
empty segment, and gives what stands in it; there is one layout at most. Otherwise there is one
defect, and it is what is reported. -/
theorem read_grammar (p : Piece) :
    (∀ c, read p = .ok c ↔ ∃ l : Layout, l.Proper ∧ l.text = p.text ∧ c = l.clause p.offset) ∧
    (∀ l l' : Layout, l.Shaped → l'.Shaped → l.text = p.text → l'.text = p.text → l = l') ∧
    (∀ e, read p = .error e ↔ ∃ reason, Defective p.text reason ∧
      e = .malformedClause (String.ofList (Text.trim p.text)) (spanOf p) reason) ∧
    ∀ reason reason', Defective p.text reason → Defective p.text reason' → reason = reason' := by
  refine ⟨fun c => read_eq_ok_iff_layout, fun l l' hl hl' htext htext' =>
    hl.unique hl' (htext.trans htext'.symm), fun e => read_eq_error_iff_defective, ?_⟩
  intro reason reason' h h'
  have herror := read_eq_error_iff_defective.mpr ⟨reason, h, rfl⟩
  rw [read_eq_error_iff_defective.mpr ⟨reason', h', rfl⟩] at herror
  cases herror
  rfl

/-- The quote stands next to the operator, the literal holds another one, and what follows the
last quote is dropped; in the second text only the path is wrong. -/
theorem read_grammar_quotes :
    read ⟨3, " Name eq'O'Brien' x".toList⟩ = .ok ⟨⟨["Name"]⟩, "eq", "O'Brien", ⟨4, 18⟩⟩ ∧
    read ⟨0, "A. eq 1".toList⟩ = .error (.malformedClause "A. eq 1" ⟨0, 7⟩ .emptyPathSegment) := by
  constructor
  · refine ((read_grammar _).1 _).mpr ⟨⟨[' '], "Name".toList, [' '], "eq".toList, [], true,
      "O'Brien".toList, " x".toList⟩, ⟨⟨rfl, ?_, ?_, ?_, rfl, ?_, ?_⟩, ?_⟩, ?_, ?_⟩
    case refine_4 => exact fun h => Bool.noConfusion h
    all_goals decide +kernel
  · refine ((read_grammar _).2.2.1 _).mpr ⟨_, .path (l := ⟨[], "A.".toList, [' '], "eq".toList, [' '],
      false, ['1'], []⟩) ⟨rfl, ?_, ?_, ?_, rfl, ?_, ?_⟩ ?_ ?_, ?_⟩
    case refine_5 => exact fun h => Bool.noConfusion h
    all_goals decide +kernel

end Clause
end RowFilter
