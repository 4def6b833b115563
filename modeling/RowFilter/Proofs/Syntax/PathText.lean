import RowFilter.Proofs.Json.SyntaxForms
import RowFilter.Proofs.Syntax.ClauseText

/-!
# Paths and their texts

A path may be given as a text or as a list of segments. A text is cut at its dots into *runs*, and
it is a path when none of them is blank (`ofString?_eq_none_iff`). It is then the text that the path
shows, so that cutting and showing are inverse to each other on the paths without a dot in a segment
(`ofString?_toString_iff`).

A list of segments, and so a path from JSON, may hold a dot. Such a path shows the text of a longer
one, and this is the only way in which two paths come to show one text.
-/

set_option autoImplicit false

namespace RowFilter

/-! ## Runs between dots -/

namespace Text

variable {q : Char} {s w : List Char}

/-- The run stands in the text, holds no `q` and cannot be made longer without one: an end of the
run is an end of the text, or a `q` stands there. -/
def MaximalRun (q : Char) (s w : List Char) : Prop :=
  q ∉ w ∧ ∃ front back, s = front ++ w ++ back ∧ (front = [] ∨ ∃ f, front = f ++ [q]) ∧
    (back = [] ∨ ∃ b, back = q :: b)

/-- An item of a join has an end of the text or a `q` on either side. -/
theorem exists_around_of_mem {ws : List (List Char)} (h : w ∈ ws) :
    ∃ front back, [q].intercalate ws = front ++ w ++ back ∧
      (front = [] ∨ ∃ f, front = f ++ [q]) ∧ (back = [] ∨ ∃ b, back = q :: b) := by
  induction ws with
  | nil => exact absurd h List.not_mem_nil
  | cons v ws ih =>
    cases ws with
    | nil =>
      rw [List.mem_singleton.mp h, List.intercalate_singleton]
      exact ⟨[], [], by simp, Or.inl rfl, Or.inl rfl⟩
    | cons v' ws =>
      rw [List.intercalate_cons_cons]
      rcases List.mem_cons.mp h with rfl | h
      · exact ⟨[], q :: [q].intercalate (v' :: ws), by simp, Or.inl rfl, Or.inr ⟨_, rfl⟩⟩
      · obtain ⟨front, back, hjoin, hfront, hback⟩ := ih h
        refine ⟨v ++ [q] ++ front, back, by simp [hjoin], Or.inr ?_, hback⟩
        rcases hfront with rfl | ⟨f, rfl⟩
        · exact ⟨v, List.append_nil _⟩
        · exact ⟨v ++ [q] ++ f, by simp⟩

/-- Splitting gives the maximal runs. -/
theorem mem_splitOn_iff : w ∈ s.splitOn q ↔ MaximalRun q s w := by
  constructor
  · intro h
    obtain ⟨front, back, hjoin, hfront, hback⟩ := exists_around_of_mem (q := q) h
    rw [List.intercalate_splitOn] at hjoin
    refine ⟨fun hq => ?_, front, back, hjoin, hfront, hback⟩
    rw [List.splitOn_eq_splitOnP] at h
    simpa using (of_mem_splitOnP h).2 q hq
  · rintro ⟨hq, front, back, rfl, hfront, hback⟩
    have hbehind : w ∈ (w ++ back).splitOn q := by
      rcases hback with rfl | ⟨b, rfl⟩
      · simp [List.splitOn_eq_singleton hq]
      · simp [List.splitOn_append_cons_self_of_not_mem hq]
    rcases hfront with rfl | ⟨f, rfl⟩
    · exact hbehind
    · rw [List.append_assoc, List.append_assoc, List.singleton_append,
        List.splitOn_append_cons_self]
      exact List.mem_append_right _ hbehind

end Text

/-! ## Texts that are no paths -/

namespace Path

variable {s : String} {p q : Path} {segments : List String}

theorem ofSegments?_eq_some : ofSegments? segments = some p ↔ p.Valid ∧ p.segments = segments := by
  rw [ofSegments?, Option.ite_none_right_eq_some, Option.some_inj]
  constructor
  · rintro ⟨hvalid, rfl⟩
    exact ⟨hvalid, rfl⟩
  · rintro ⟨hvalid, rfl⟩
    exact ⟨hvalid, rfl⟩

theorem exists_ofSegments?_iff : (∃ p, ofSegments? segments = some p) ↔
    segments ≠ [] ∧ ∀ seg ∈ segments, Text.allBlank seg.toList = false := by
  constructor
  · rintro ⟨p, h⟩
    obtain ⟨hvalid, rfl⟩ := ofSegments?_eq_some.mp h
    exact hvalid
  · intro h
    exact ⟨⟨segments⟩, ofSegments?_eq_some.mpr ⟨h, rfl⟩⟩

theorem ofString?_eq_some :
    ofString? s = some p ↔ p.Valid ∧ (∀ seg ∈ p.segments, '.' ∉ seg.toList) ∧ p.toString = s := by
  rw [ofString?, read?_eq_some, String.toList_inj]

/-- A text is no path when one of its runs between dots is blank. -/
theorem ofString?_eq_none_iff :
    ofString? s = none ↔ ∃ w, Text.MaximalRun '.' s.toList w ∧ Text.allBlank w = true := by
  rw [ofString?, read?, ofSegments?, ite_eq_right_iff]
  simp only [Valid, ← Text.mem_splitOn_iff, List.forall_mem_map, String.toList_ofList]
  constructor
  · intro h
    by_contra hnone
    refine Option.some_ne_none _ (h ⟨?_, ?_⟩)
    · simp [List.splitOn_ne_nil]
    · intro w hw
      rw [Bool.eq_false_iff]
      exact fun hblank => hnone ⟨w, hw, hblank⟩
  · rintro ⟨w, hw, hblank⟩ ⟨-, hvisible⟩
    rw [hvisible w hw] at hblank
    cases hblank

/-- A dot with an end of the text beside it, or another dot, has an empty run there. -/
theorem ofString?_eq_none_of_dots
    (h : s.toList = [] ∨ (∃ r, s.toList = '.' :: r) ∨ (∃ r, s.toList = r ++ ['.']) ∨
      ∃ r r', s.toList = r ++ '.' :: '.' :: r') : ofString? s = none := by
  refine ofString?_eq_none_iff.mpr ⟨[], ⟨List.not_mem_nil, ?_⟩, rfl⟩
  rcases h with h | ⟨r, h⟩ | ⟨r, h⟩ | ⟨r, r', h⟩
  · exact ⟨[], [], by simp [h], Or.inl rfl, Or.inl rfl⟩
  · exact ⟨[], '.' :: r, by simp [h], Or.inl rfl, Or.inr ⟨r, rfl⟩⟩
  · exact ⟨r ++ ['.'], [], by simp [h], Or.inr ⟨r, rfl⟩, Or.inl rfl⟩
  · exact ⟨r ++ ['.'], '.' :: r', by simp [h], Or.inr ⟨r, rfl⟩, Or.inr ⟨r', rfl⟩⟩

/-! ## Dots in segments -/

/-- A segment of the path holds a dot. -/
def Dotted (p : Path) : Prop := ∃ seg ∈ p.segments, '.' ∈ seg.toList

theorem not_dotted_iff : ¬ p.Dotted ↔ ∀ seg ∈ p.segments, '.' ∉ seg.toList := by
  simp [Dotted]

theorem not_dotted_of_ofString? (h : ofString? s = some p) : ¬ p.Dotted :=
  not_dotted_iff.mpr (ofString?_eq_some.mp h).2.1

/-- A path is read from the text it shows when no segment of it holds a dot. -/
theorem ofString?_toString_iff (hp : p.Valid) : ofString? p.toString = some p ↔ ¬ p.Dotted := by
  rw [ofString?_eq_some, not_dotted_iff]
  simp [hp]

/-- The ways in which a path is made. -/
inductive Made : Path → Prop
  | text {s : String} {p : Path} : ofString? s = some p → Made p
  | segments {segments : List String} {p : Path} : ofSegments? segments = some p → Made p
  | json {x : Json} {p : Path} : decode? x = some p → Made p

theorem Made.valid (h : p.Made) : p.Valid := by
  cases h with
  | text h => exact (ofString?_eq_some.mp h).1
  | segments h => exact (ofSegments?_eq_some.mp h).1
  | json h => exact Path.lawful.of_decode _ _ h

/-- Two paths without a dot in a segment show different texts. -/
theorem eq_of_toString_eq (hp : p.Valid) (hq : q.Valid) (hpdots : ¬ p.Dotted) (hqdots : ¬ q.Dotted)
    (h : p.toString = q.toString) : p = q := by
  have hread := (ofString?_toString_iff hp).mpr hpdots
  rw [h, (ofString?_toString_iff hq).mpr hqdots] at hread
  exact (Option.some_inj.mp hread).symm

/-- **Cutting a text at its dots and joining segments by dots are inverse to each other exactly
where no segment holds a dot.** A text is no path when one of its runs is blank, as the empty one at
a dot without neighbour is; otherwise it is the text that its path shows. Segments make a path when
there are some and none is blank. A path that was made in any way is read from the text it shows if
and only if no segment holds a dot. So paths that were read are the same if they show the same, and
of two different paths that do so one has a segment with a dot, and was not read from a text. -/
theorem text_inverse_segments :
    (∀ s, ofString? s = none ↔ ∃ w, Text.MaximalRun '.' s.toList w ∧ Text.allBlank w = true) ∧
    (∀ s : String, (s.toList = [] ∨ (∃ r, s.toList = '.' :: r) ∨ (∃ r, s.toList = r ++ ['.']) ∨
      ∃ r r', s.toList = r ++ '.' :: '.' :: r') → ofString? s = none) ∧
    (∀ s p, ofString? s = some p →
      p.toString = s ∧ ∀ seg ∈ p.segments, '.' ∉ seg.toList) ∧
    (∀ segments, ((∃ p, ofSegments? segments = some p) ↔
        segments ≠ [] ∧ ∀ seg ∈ segments, Text.allBlank seg.toList = false) ∧
      ∀ p, ofSegments? segments = some p → p.segments = segments) ∧
    (∀ p : Path, p.Made →
      (ofString? p.toString = some p ↔ ∀ seg ∈ p.segments, '.' ∉ seg.toList)) ∧
    (∀ s s' p p', ofString? s = some p → ofString? s' = some p' →
      (p = p' ↔ p.toString = p'.toString)) ∧
    ∀ p q : Path, p.Made → q.Made → p ≠ q → p.toString = q.toString →
      ∃ r, (r = p ∨ r = q) ∧ (∃ seg ∈ r.segments, '.' ∈ seg.toList) ∧ ∀ s, ofString? s ≠ some r := by
  refine ⟨fun s => ofString?_eq_none_iff, fun s => ofString?_eq_none_of_dots, ?_, ?_, ?_, ?_, ?_⟩
  · intro s p h
    obtain ⟨-, hdots, htext⟩ := ofString?_eq_some.mp h
    exact ⟨htext, hdots⟩
  · intro segments
    exact ⟨exists_ofSegments?_iff, fun p h => (ofSegments?_eq_some.mp h).2⟩
  · intro p hp
    rw [ofString?_toString_iff hp.valid, not_dotted_iff]
  · intro s s' p p' h h'
    constructor
    · exact congrArg toString
    · exact eq_of_toString_eq (Made.text h).valid (Made.text h').valid (not_dotted_of_ofString? h)
        (not_dotted_of_ofString? h')
  · intro p q hp hq hne htext
    by_cases hpdots : p.Dotted
    · exact ⟨p, Or.inl rfl, hpdots, fun s h => not_dotted_of_ofString? h hpdots⟩
    · by_cases hqdots : q.Dotted
      · exact ⟨q, Or.inr rfl, hqdots, fun s h => not_dotted_of_ofString? h hqdots⟩
      · exact absurd (eq_of_toString_eq hp.valid hq.valid hpdots hqdots htext) hne

/-- The two paths show one text, and the one of JSON has a segment with a dot. The ideographic space
alone is no segment. -/
theorem text_inverse_segments_number :
    ofString? "Address.\u3000.Number" = none ∧ ofString? "Address." = none ∧
    ∃ p q p', ofString? "Address.Number" = some p ∧ decode? (.arr [.str "Address.Number"]) = some q ∧
      ofString? "Address" = some p' ∧ ofSegments? ["Address", "Number"] = some p ∧
      p.toString = "Address.Number" ∧ ofString? p.toString = some p ∧
      ofString? q.toString ≠ some q ∧ p ≠ p' ∧ p ≠ q ∧ p.toString = q.toString ∧
      ∃ r, (r = p ∨ r = q) ∧ ∃ seg ∈ r.segments, '.' ∈ seg.toList := by
  obtain ⟨hnone, hdots, hread, hsegments, hmade, hsame, hdifferent⟩ := text_inverse_segments
  have hp : ofString? "Address.Number" = some ⟨["Address", "Number"]⟩ := by decide +kernel
  have hp' : ofString? "Address" = some ⟨["Address"]⟩ := by decide +kernel
  have hq : decode? (.arr [.str "Address.Number"]) = some (⟨["Address.Number"]⟩ : Path) := by
    decide +kernel
  have hmake : ofSegments? ["Address", "Number"] = some ⟨["Address", "Number"]⟩ := by decide +kernel
  have htext : (⟨["Address", "Number"]⟩ : Path).toString = "Address.Number" := (hread _ _ hp).1
  have htext' : (⟨["Address.Number"]⟩ : Path).toString = "Address.Number" := by decide +kernel
  have hne : (⟨["Address", "Number"]⟩ : Path) ≠ ⟨["Address.Number"]⟩ := by decide
  have hblank : ofString? "Address.\u3000.Number" = none :=
    (hnone _).mpr ⟨['\u3000'], ⟨by decide, "Address.".toList, ".Number".toList, by decide,
      Or.inr ⟨"Address".toList, by decide⟩, Or.inr ⟨"Number".toList, by decide⟩⟩, by decide +kernel⟩
  obtain ⟨r, hr, hseg, -⟩ := hdifferent _ _ (.text hp) (.json hq) hne (htext.trans htext'.symm)
  refine ⟨hblank, hdots _ (Or.inr (Or.inr (Or.inl ⟨"Address".toList, by decide⟩))), _, _, _, hp, hq,
    hp', hmake, htext, (hmade _ (.segments hmake)).mpr (hread _ _ hp).2, ?_, ?_, hne,
    htext.trans htext'.symm, r, hr, hseg⟩
  · intro h
    exact absurd ((hmade _ (.json hq)).mp h "Address.Number" (by simp)) (by decide)
  · intro h
    exact absurd ((hsame _ _ _ _ hp hp').mp h) (by decide +kernel)

end Path
end RowFilter
