import RowFilter.Proofs.Text.Splitting
import RowFilter.Proofs.Text.Words
import RowFilter.Syntax.Written

/-!
# The text of a clause

What a clause can hold after it has been read, and which clauses are read back from their written
form. Both have one answer: the path and the operator are *words*, without blanks and quotes, and
the path has no dot inside a segment. The literal is free, because the first quote of a written
clause is the one in front of the literal and the last quote is the one behind it.
-/

set_option autoImplicit false

namespace RowFilter

namespace Text

/-! ## What stands before the last quote -/

theorem beforeLast_eq_none_iff {q : Char} {s : List Char} : beforeLast q s = none ↔ q ∉ s := by
  induction s with
  | nil => simp [beforeLast]
  | cons c r ih =>
    rw [beforeLast, List.mem_cons, not_or]
    cases hr : beforeLast q r with
    | none =>
      by_cases hc : c = q
      · simp [hc]
      · simp [hc, ih.mp hr, Ne.symm hc]
    | some front =>
      have hmem : ¬ q ∉ r := fun hq => by rw [ih.mpr hq] at hr; cases hr
      simp [hmem]

theorem beforeLast_eq_some_iff {q : Char} {s front : List Char} :
    beforeLast q s = some front ↔ ∃ back, s = front ++ q :: back ∧ q ∉ back := by
  induction s generalizing front with
  | nil => simp [beforeLast]
  | cons c r ih =>
    rw [beforeLast]
    cases hr : beforeLast q r with
    | some front' =>
      obtain ⟨back, rfl, hback⟩ := ih.mp hr
      constructor
      · intro h
        cases h
        exact ⟨back, rfl, hback⟩
      · rintro ⟨back', h, hback'⟩
        cases front with
        | nil =>
          -- The text behind `c` holds a `q`, so `c` is not the last one.
          rw [List.nil_append, List.cons.injEq] at h
          exact absurd (h.2 ▸ by simp) hback'
        | cons d front =>
          rw [List.cons_append, List.cons.injEq] at h
          rw [ih.mpr ⟨back', h.2, hback'⟩] at hr
          cases hr
          rw [h.1]
    | none =>
      have hq := beforeLast_eq_none_iff.mp hr
      constructor
      · intro h
        by_cases hc : c = q
        · rw [hc] at h
          simp only [if_true, Option.some.injEq] at h
          exact ⟨r, by rw [← h, hc, List.nil_append], hq⟩
        · simp [hc] at h
      · rintro ⟨back, h, -⟩
        cases front with
        | nil =>
          rw [List.nil_append, List.cons.injEq] at h
          simp [h.1]
        | cons d front =>
          rw [List.cons_append, List.cons.injEq] at h
          exact absurd (h.2 ▸ by simp) hq

/-- Where the last `q` stands is determined by the text. -/
theorem last_unique {q : Char} {a b s t : List Char} (hs : q ∉ s) (ht : q ∉ t)
    (h : a ++ q :: s = b ++ q :: t) : a = b ∧ s = t := by
  have hlast : beforeLast q (a ++ q :: s) = some a := beforeLast_eq_some_iff.mpr ⟨s, rfl, hs⟩
  rw [h, beforeLast_eq_some_iff.mpr ⟨t, rfl, ht⟩] at hlast
  obtain rfl := Option.some_inj.mp hlast
  exact ⟨rfl, (List.cons.inj (List.append_cancel_left h)).2⟩

end Text

open Text (isBlank words)

/-! ## Words of a clause -/

namespace Clause

/-- A text that can be a path or an operator. -/
def IsWord (w : List Char) : Prop := w ≠ [] ∧ ∀ c ∈ w, isBlank c = false ∧ c ≠ quote

instance (w : List Char) : Decidable (IsWord w) :=
  decidable_of_iff (w ≠ [] ∧ w.all (fun c => !isBlank c && c != quote) = true)
    (by simp [IsWord])

theorem IsWord.quote_not_mem {w : List Char} (hw : IsWord w) : quote ∉ w :=
  fun hq => (hw.2 quote hq).2 rfl

theorem IsWord.words_eq {w : List Char} (hw : IsWord w) : words w = [w] :=
  Text.words_eq_singleton hw.1 fun c hc => (hw.2 c hc).1

theorem IsWord.append {v w : List Char} (hv : IsWord v) (hw : IsWord w) : IsWord (v ++ w) := by
  refine ⟨List.append_ne_nil_of_left_ne_nil hv.1 w, fun c hc => ?_⟩
  rcases List.mem_append.mp hc with hc | hc
  · exact hv.2 c hc
  · exact hw.2 c hc

theorem isWord_intercalate {ws : List (List Char)} (hne : ws ≠ []) (h : ∀ w ∈ ws, IsWord w) :
    IsWord (['.'].intercalate ws) := by
  induction ws with
  | nil => exact absurd rfl hne
  | cons w ws ih =>
    have hw := h w List.mem_cons_self
    cases ws with
    | nil => rwa [List.intercalate_singleton]
    | cons v ws =>
      have hdot : IsWord ['.'] := by decide
      rw [List.intercalate_cons_cons]
      exact (hw.append hdot).append
        (ih (List.cons_ne_nil v ws) fun w' hw' => h w' (List.mem_cons_of_mem w hw'))

end Clause

/-! ## Paths -/

namespace Path

theorem toList_toString (p : Path) :
    p.toString.toList = ['.'].intercalate (p.segments.map String.toList) := by
  rw [toString, String.toList_intercalate]
  rfl

/-- A path is read from its own text and no other, if no segment holds a dot. -/
theorem read?_eq_some {s : List Char} {p : Path} :
    read? s = some p ↔ p.Valid ∧ (∀ seg ∈ p.segments, '.' ∉ seg.toList) ∧ p.toString.toList = s := by
  rw [read?, ofSegments?, toList_toString]
  constructor
  · intro h
    by_cases hvalid : Valid ⟨(s.splitOn '.').map String.ofList⟩
    · rw [if_pos hvalid] at h
      cases h
      refine ⟨hvalid, ?_, ?_⟩
      · intro seg hseg
        obtain ⟨w, hw, rfl⟩ := List.mem_map.mp hseg
        rw [List.splitOn_eq_splitOnP] at hw
        intro hdot
        rw [String.toList_ofList] at hdot
        exact absurd ((Text.of_mem_splitOnP hw).2 '.' hdot) (by simp)
      · have hsegments : (List.map String.ofList (s.splitOn '.')).map String.toList
            = s.splitOn '.' := by
          simp [Function.comp_def]
        rw [hsegments, List.intercalate_splitOn]
    · rw [if_neg hvalid] at h
      cases h
  · rintro ⟨hvalid, hdots, rfl⟩
    have hsplit : (['.'].intercalate (p.segments.map String.toList)).splitOn '.'
        = p.segments.map String.toList := by
      refine List.splitOn_intercalate '.' ?_ (by simp [hvalid.1])
      intro l hl
      obtain ⟨seg, hseg, rfl⟩ := List.mem_map.mp hl
      exact hdots seg hseg
    have hsegments : (p.segments.map String.toList).map String.ofList = p.segments := by
      simp [Function.comp_def]
    rw [hsplit, hsegments, if_pos hvalid]

/-- The segments of the path are words without dots. -/
structure Plain (p : Path) : Prop where
  segments_ne_nil : p.segments ≠ []
  segments : ∀ seg ∈ p.segments, Clause.IsWord seg.toList ∧ '.' ∉ seg.toList

instance (p : Path) : Decidable p.Plain :=
  decidable_of_iff
    (p.segments ≠ [] ∧ ∀ seg ∈ p.segments, Clause.IsWord seg.toList ∧ '.' ∉ seg.toList)
    ⟨fun ⟨hne, hsegments⟩ => ⟨hne, hsegments⟩, fun ⟨hne, hsegments⟩ => ⟨hne, hsegments⟩⟩

/-- A path is plain when its text is a word and reads as the path. -/
theorem plain_iff {p : Path} :
    p.Plain ↔ Clause.IsWord p.toString.toList ∧ read? p.toString.toList = some p := by
  rw [read?_eq_some, toList_toString]
  constructor
  · rintro ⟨hne, hsegments⟩
    -- Words make a word when they are joined by dots, and a word is not blank.
    refine ⟨Clause.isWord_intercalate (by simp [hne]) ?_, ⟨hne, ?_⟩, ?_, rfl⟩
    · intro w hw
      obtain ⟨seg, hseg, rfl⟩ := List.mem_map.mp hw
      exact (hsegments seg hseg).1
    · intro seg hseg
      obtain ⟨⟨hnil, hchars⟩, -⟩ := hsegments seg hseg
      obtain ⟨c, r, hcons⟩ := List.exists_cons_of_ne_nil hnil
      have hc : Text.isBlank c = false := (hchars c (by simp [hcons])).1
      simp [Text.allBlank, hcons, hc]
    · exact fun seg hseg => (hsegments seg hseg).2
  · rintro ⟨hword, hvalid, hdots, -⟩
    refine ⟨hvalid.1, fun seg hseg => ⟨⟨fun hnil => ?_, fun c hc => ?_⟩, hdots seg hseg⟩⟩
    · exact absurd (hvalid.2 seg hseg) (by simp [Text.allBlank, hnil])
    · have hin : seg.toList <:+: ['.'].intercalate (p.segments.map String.toList) :=
        Text.infix_intercalate_of_mem (List.mem_map_of_mem hseg)
      exact hword.2 c (hin.subset hc)

end Path

/-! ## The parts of a clause -/

namespace Clause

theorem dropWhile_of_quote_not_mem {text : List Char} (h : quote ∉ text) :
    text.dropWhile (· ≠ quote) = [] := by
  rw [List.dropWhile_eq_nil_iff]
  intro c hc
  exact decide_eq_true fun heq => h (heq ▸ hc)

theorem cut_at_quote {front : List Char} (quoted : List Char) (h : quote ∉ front) :
    (front ++ quote :: quoted).takeWhile (· ≠ quote) = front ∧
      (front ++ quote :: quoted).dropWhile (· ≠ quote) = quote :: quoted := by
  have hfront : ∀ c ∈ front, decide (c ≠ quote) = true := by
    intro c hc
    exact decide_eq_true fun heq => h (heq ▸ hc)
  rw [List.takeWhile_append_of_pos hfront, List.dropWhile_append_of_pos hfront]
  simp

/-- **What a clause is**: three words, or two words and all that stands between the first and the
last quote. -/
theorem parts_eq_ok {text path operator literal : List Char} :
    parts text = .ok (path, operator, literal) ↔
      (quote ∉ text ∧ words text = [path, operator, literal]) ∨
      ∃ front back, text = front ++ quote :: (literal ++ quote :: back) ∧
        quote ∉ front ∧ quote ∉ back ∧ words front = [path, operator] := by
  constructor
  · intro h
    by_cases hquote : quote ∈ text
    · obtain ⟨front, quoted, rfl, hfront⟩ := List.eq_append_cons_of_mem hquote
      obtain ⟨htake, hdrop⟩ := cut_at_quote quoted hfront
      simp only [parts, htake, hdrop] at h
      split at h
      · cases h
      · next literal' hlast =>
        split at h
        · next hwords =>
          cases h
          obtain ⟨back, rfl, hback⟩ := Text.beforeLast_eq_some_iff.mp hlast
          exact Or.inr ⟨front, back, rfl, hfront, hback, hwords⟩
        · cases h
    · simp only [parts, dropWhile_of_quote_not_mem hquote] at h
      split at h
      · next hwords =>
        cases h
        exact Or.inl ⟨hquote, hwords⟩
      · cases h
  · rintro (⟨hquote, hwords⟩ | ⟨front, back, rfl, hfront, hback, hwords⟩)
    · simp only [parts, dropWhile_of_quote_not_mem hquote, hwords]
    · obtain ⟨htake, hdrop⟩ := cut_at_quote (literal ++ quote :: back) hfront
      have hlast : Text.beforeLast quote (literal ++ quote :: back) = some literal :=
        Text.beforeLast_eq_some_iff.mpr ⟨back, rfl, hback⟩
      simp only [parts, htake, hdrop, hlast, hwords]

/-- A word of a text without quotes can be a part of a clause. -/
theorem isWord_of_mem_words {s w : List Char} (hs : quote ∉ s) (hw : w ∈ words s) : IsWord w := by
  obtain ⟨hne, hin, hblank⟩ := Text.of_mem_words hw
  exact ⟨hne, fun c hc => ⟨hblank c hc, fun heq => hs (heq ▸ hin.subset hc)⟩⟩

/-- The first two parts are words, and every part stands in the text. -/
theorem of_parts {text path operator literal : List Char}
    (h : parts text = .ok (path, operator, literal)) :
    IsWord path ∧ IsWord operator ∧ path <:+: text ∧ operator <:+: text ∧ literal <:+: text := by
  have hword : ∀ {s w : List Char}, quote ∉ s → w ∈ words s → IsWord w ∧ w <:+: s :=
    fun hs hw => ⟨isWord_of_mem_words hs hw, (Text.of_mem_words hw).2.1⟩
  rcases parts_eq_ok.mp h with ⟨hquote, hwords⟩ | ⟨front, back, rfl, hfront, -, hwords⟩
  · obtain ⟨hpath, hpath'⟩ := hword (w := path) hquote (by simp [hwords])
    obtain ⟨hoperator, hoperator'⟩ := hword (w := operator) hquote (by simp [hwords])
    have hliteral := (hword (w := literal) hquote (by simp [hwords])).2
    exact ⟨hpath, hoperator, hpath', hoperator', hliteral⟩
  · obtain ⟨hpath, hpath'⟩ := hword (w := path) hfront (by simp [hwords])
    obtain ⟨hoperator, hoperator'⟩ := hword (w := operator) hfront (by simp [hwords])
    have hin : literal <:+: front ++ quote :: (literal ++ quote :: back) :=
      ⟨front ++ [quote], quote :: back, by simp⟩
    exact ⟨hpath, hoperator, List.infix_append_of_infix_left hpath',
      List.infix_append_of_infix_left hoperator', hin⟩

/-! ## Reading -/

/-- A piece is read as the clause of its parts, at the place where its text stands. -/
theorem read_eq_ok {p : Piece} {c : Clause} :
    read p = .ok c ↔
      parts (Text.trim p.text) = .ok (c.path.toString.toList, c.operator.toList, c.literal.toList) ∧
      Path.read? c.path.toString.toList = some c.path ∧ c.span = spanOf p := by
  constructor
  · intro h
    dsimp only [read] at h
    split at h
    · cases h
    · next path operator literal hparts =>
      split at h
      · cases h
      · next path' hpath =>
        cases h
        have htext := (Path.read?_eq_some.mp hpath).2.2
        refine ⟨?_, ?_, rfl⟩
        · rw [hparts, htext, String.toList_ofList, String.toList_ofList]
        · rw [htext, hpath]
  · rintro ⟨hparts, hpath, hspan⟩
    simp only [read, hparts, hpath, ← hspan, String.ofList_toList]

/-- What a clause holds after it has been read. -/
theorem of_read {p : Piece} {c : Clause} (h : read p = .ok c) :
    c.path.Plain ∧ IsWord c.operator.toList ∧ c.path.toString.toList <:+: p.text ∧
      c.operator.toList <:+: p.text ∧ c.literal.toList <:+: p.text := by
  obtain ⟨hparts, hread, -⟩ := read_eq_ok.mp h
  obtain ⟨hpath, hoperator, hin, hin', hin''⟩ := of_parts hparts
  have htrim := Text.trim_infix p.text
  exact ⟨Path.plain_iff.mpr ⟨hpath, hread⟩, hoperator, hin.trans htrim, hin'.trans htrim,
    hin''.trans htrim⟩

/-- Only the trimmed text of a piece matters, and where it stands. -/
theorem read_trim (p : Piece) : read ⟨(spanOf p).offset, Text.trim p.text⟩ = read p := by
  have htrimmed := Text.trimmed_trim p.text
  have hspan : spanOf ⟨(spanOf p).offset, Text.trim p.text⟩ = spanOf p := by
    simp only [spanOf, htrimmed.takeWhile_eq, htrimmed.trim_eq]
    rfl
  simp only [read, htrimmed.trim_eq, hspan]

/-- A malformed clause is reported with the trimmed text of the piece and its place. -/
theorem exists_of_read_eq_error {p : Piece} {e : ParseError} (h : read p = .error e) :
    ∃ reason, e = .malformedClause (String.ofList (Text.trim p.text)) (spanOf p) reason := by
  dsimp only [read] at h
  split at h
  · cases h
    exact ⟨_, rfl⟩
  · split at h <;> cases h
    exact ⟨_, rfl⟩

/-- Between two separators there must be more than blanks. -/
theorem read_blank {p : Piece} (h : Text.allBlank p.text = true) :
    read p = .error
      (.malformedClause "" ⟨p.offset + Text.byteLength p.text, 0⟩ (.tokenCount 3 0)) := by
  have htrim : Text.trim p.text = [] := by
    have hpad := Text.trim_pad (t := []) (v := []) h ⟨by simp, by simp⟩ rfl
    rwa [List.append_nil, List.append_nil] at hpad
  have hblanks : p.text.takeWhile isBlank = p.text :=
    List.takeWhile_eq_self_iff.mpr (List.all_eq_true.mp h)
  have hspan : spanOf p = ⟨p.offset + Text.byteLength p.text, 0⟩ := by
    rw [spanOf, hblanks, htrim]
    rfl
  simp only [read, htrim, hspan]
  rfl

/-! ## The written form -/

theorem toList_written (c : Clause) :
    c.written.toList =
      c.path.toString.toList ++ ' ' :: (c.operator.toList ++ ' ' ::
        quote :: (c.literal.toList ++ [quote])) := by
  show (s!"{c.path} {c.operator} '{c.literal}'").toList = _
  simp only [String.toList_append, List.append_assoc]
  rfl

/-- The parts of a written clause are the parts it was written from, whatever the literal. -/
theorem parts_written {c : Clause} (hpath : IsWord c.path.toString.toList)
    (hoperator : IsWord c.operator.toList) :
    parts c.written.toList =
      .ok (c.path.toString.toList, c.operator.toList, c.literal.toList) := by
  have hspace : isBlank ' ' = true := by decide
  have hne : quote ≠ ' ' := by decide
  refine parts_eq_ok.mpr (Or.inr ⟨c.path.toString.toList ++ ' ' :: (c.operator.toList ++ [' ']), [],
    ?_, ?_, List.not_mem_nil, ?_⟩)
  · simp [toList_written]
  · simp [hpath.quote_not_mem, hoperator.quote_not_mem, hne]
  · rw [Text.words_append_blank hspace, Text.words_append_blank hspace, hpath.words_eq,
      hoperator.words_eq]
    rfl

theorem trimmed_written {c : Clause} (hpath : IsWord c.path.toString.toList) :
    Text.Trimmed c.written.toList := by
  obtain ⟨d, r, hcons⟩ := List.exists_cons_of_ne_nil hpath.1
  have hd : isBlank d = false := (hpath.2 d (by simp [hcons])).1
  have hquote : isBlank quote = false := by decide
  rw [toList_written]
  refine ⟨fun e he => ?_, fun e he => ?_⟩
  · have hde : d = e := by simpa [hcons] using he
    rw [← hde, hd]
  · have hqe : quote = e := by simpa [List.getLast?_cons] using he
    rw [← hqe, hquote]

/-- A clause is read back from its written form, with any blanks around it. -/
theorem read_written {c : Clause} (hpath : c.path.Plain) (hoperator : IsWord c.operator.toList)
    {p : Piece} {u v : List Char} (hu : Text.allBlank u = true) (hv : Text.allBlank v = true)
    (htext : p.text = u ++ c.written.toList ++ v) : read p = .ok { c with span := spanOf p } := by
  obtain ⟨hword, hread⟩ := Path.plain_iff.mp hpath
  refine read_eq_ok.mpr ⟨?_, hread, rfl⟩
  rw [htext, Text.trim_pad hu (trimmed_written hword) hv]
  exact parts_written hword hoperator

end Clause
end RowFilter
