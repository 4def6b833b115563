import RowFilter.Proofs.Syntax.Scan

/-!
# Where a filter is malformed

A filter that is not blank is read when each of its pieces is, and otherwise the error is that of
the first piece which is refused. The error points at the text of that piece without the blanks
around it: the span lies in the piece, gives this text, and reading it there again fails in the same
way. The pieces are those of the scan for both separators, whatever groups they are in.
-/

set_option autoImplicit false

namespace RowFilter

open Grouping (SeparatorFree)
open Text (byteLength)

/-- An error with this text, place and reason is about the piece `p` of the filter. -/
structure PointsAt (src : List Char) (p : Piece) (text : String) (span : Span)
    (reason : ClauseDefect) : Prop where
  /-- The piece is refused with the error. -/
  refused : Clause.read p = .error (.malformedClause text span reason)
  /-- The text is that of the piece, without the blanks around it. -/
  trimmed : text.toList = Text.trim p.text
  free : SeparatorFree text.toList
  len : span.len = byteLength text.toList
  /-- The span lies in the piece, and the piece lies in the filter. -/
  inside : p.offset ≤ span.offset ∧ span.stop ≤ p.offset + byteLength p.text ∧
    p.offset + byteLength p.text ≤ byteLength src
  /-- The span starts and ends between two characters and gives the text. -/
  textIn? : span.textIn? src = some text.toList
  /-- The text alone is refused with the same error. -/
  alone : Clause.read ⟨span.offset, text.toList⟩ = .error (.malformedClause text span reason)

/-! ## The span of a piece -/

theorem Clause.spanOf_inside (p : Piece) :
    p.offset ≤ (spanOf p).offset ∧ (spanOf p).stop ≤ p.offset + byteLength p.text := by
  obtain ⟨v, -, hv⟩ := Text.exists_eq_trim p.text
  have hlength := congrArg byteLength hv
  rw [Text.byteLength_append, Text.byteLength_append] at hlength
  unfold spanOf Span.stop
  dsimp only
  omega

/-- In front of the trimmed text stand what is in front of the piece and the blanks of the piece. -/
theorem Clause.textIn?_spanOf {p : Piece} {front : List Char} (back : List Char)
    (hoffset : p.offset = byteLength front) :
    (spanOf p).textIn? (front ++ p.text ++ back) = some (Text.trim p.text) := by
  obtain ⟨v, -, hv⟩ := Text.exists_eq_trim p.text
  have htext := Span.textIn?_append (front ++ p.text.takeWhile Text.isBlank) (Text.trim p.text)
    (v ++ back)
  have hjoin : front ++ p.text.takeWhile Text.isBlank ++ Text.trim p.text ++ (v ++ back) =
      front ++ (p.text.takeWhile Text.isBlank ++ Text.trim p.text ++ v) ++ back := by
    simp only [List.append_assoc]
  rw [hjoin, ← hv, Text.byteLength_append, ← hoffset] at htext
  exact htext

namespace Grouping

/-! ## The first refused piece -/

/-- The pieces of the scan from left to right that cuts at either separator. -/
def ScannedPieces (src : List Char) (ps : List Piece) : Prop :=
  ∃ p later, Scanned 0 src p later ∧ ps = p :: later.map Prod.snd

theorem scannedPieces_iff {src : List Char} {ps : List Piece} :
    ScannedPieces src ps ↔ ps = (pieces src).flatten := by
  constructor
  · rintro ⟨p, later, hscan, rfl⟩
    rw [pieces_of_scanned hscan, flatten_regroup]
  · intro h
    obtain ⟨p, later, hscan, hpieces⟩ := scanned_pieces src
    exact ⟨p, later, hscan, by rw [h, ← hpieces, flatten_regroup]⟩

/-- Every piece stands in the filter. -/
theorem exists_of_mem_flatten_pieces {src : List Char} {p : Piece} (hp : p ∈ (pieces src).flatten) :
    ∃ front back, src = front ++ p.text ++ back ∧ p.offset = byteLength front := by
  obtain ⟨ps, hps, hpps⟩ := List.mem_flatten.mp hp
  obtain ⟨front, s, back, rfl, hs⟩ := (joined_pieces src).exists_of_mem hps
  obtain ⟨front', t, back', rfl, rfl⟩ := hs.exists_of_mem hpps
  refine ⟨front ++ front', back' ++ back, by simp, ?_⟩
  rw [Text.byteLength_append, Nat.zero_add]

/-- The error of a refused piece points at the piece. -/
theorem pointsAt_of_read {src : List Char} {p : Piece} (hp : p ∈ (pieces src).flatten)
    {e : ParseError} (h : Clause.read p = .error e) :
    ∃ text span reason, e = .malformedClause text span reason ∧
      PointsAt src p text span reason := by
  obtain ⟨reason, rfl⟩ := Clause.exists_of_read_eq_error h
  obtain ⟨front, back, rfl, hoffset⟩ := exists_of_mem_flatten_pieces hp
  have htext : (String.ofList (Text.trim p.text)).toList = Text.trim p.text :=
    String.toList_ofList
  obtain ⟨hstart, hstop⟩ := Clause.spanOf_inside p
  refine ⟨_, _, reason, rfl, ?_⟩
  constructor
  case refused => exact h
  case trimmed => exact htext
  case free =>
    obtain ⟨ps, hps, hpps⟩ := List.mem_flatten.mp hp
    rw [htext]
    exact (separatorFree_of_mem_pieces hps hpps).mono (Text.trim_infix p.text)
  case len =>
    rw [htext]
    rfl
  case inside =>
    refine ⟨hstart, hstop, ?_⟩
    rw [hoffset, Text.byteLength_append, Text.byteLength_append]
    omega
  case textIn? =>
    rw [htext]
    exact Clause.textIn?_spanOf back hoffset
  case alone => rw [htext, Clause.read_trim, h]

/-- An error of a filter that is not blank points at the first piece that is refused. -/
theorem exists_first_refused {src : String} (hvisible : Text.allBlank src.toList = false)
    {e : ParseError} (h : parse {} src = .error e) :
    ∃ before p after text span reason, (pieces src.toList).flatten = before ++ p :: after ∧
      (∀ b ∈ before, ∃ c, Clause.read b = .ok c) ∧ e = .malformedClause text span reason ∧
      PointsAt src.toList p text span reason := by
  obtain ⟨before, p, after, hps, hbefore, hp⟩ := mapM_eq_error.mp ((parse_eq_error hvisible).mp h)
  have hmem : p ∈ (pieces src.toList).flatten := by simp [hps]
  obtain ⟨text, span, reason, he, hpoints⟩ := pointsAt_of_read hmem hp
  exact ⟨before, p, after, text, span, reason, hps, hbefore, he, hpoints⟩

/-- Only a blank filter has no clause. -/
theorem parse_eq_emptyExpression {src : String} :
    parse {} src = .error .emptyExpression ↔ src ≠ "" ∧ Text.allBlank src.toList = true := by
  constructor
  · intro h
    constructor
    · intro hempty
      rw [hempty] at h
      cases h
    · cases hvisible : Text.allBlank src.toList with
      | true => rfl
      | false =>
        obtain ⟨_, _, _, _, _, _, _, _, hmalformed, _⟩ := exists_first_refused hvisible h
        cases hmalformed
  · intro h
    exact parse_blank h.1 h.2

/-- **Acceptance, and the place of the first error.** A filter is refused for having no clause
exactly when it is blank and not empty; the check behind the loop never refuses it for that. Every
filter has one scan, and one that is not blank is read exactly when each piece of the scan is.
Otherwise the error points at the first piece that is refused. -/
theorem parse_located (src : String) :
    (parse {} src = .error .emptyExpression ↔ src ≠ "" ∧ Text.allBlank src.toList = true) ∧
    (∀ groups total, readGroups none 0 (pieces src.toList) = .ok (groups, total) → total ≠ 0) ∧
    ∃ ps, ScannedPieces src.toList ps ∧ (∀ ps', ScannedPieces src.toList ps' → ps' = ps) ∧
      (Text.allBlank src.toList = false →
        ((∃ g, parse {} src = .ok g) ↔ ∀ p ∈ ps, ∃ c, Clause.read p = .ok c) ∧
        ((∃ p ∈ ps, ¬ ∃ c, Clause.read p = .ok c) →
          ∃ before p after text span reason, ps = before ++ p :: after ∧
            (∀ b ∈ before, ∃ c, Clause.read b = .ok c) ∧
            parse {} src = .error (.malformedClause text span reason) ∧
            PointsAt src.toList p text span reason)) := by
  refine ⟨parse_eq_emptyExpression, fun groups total => readGroups_total_ne_zero,
    (pieces src.toList).flatten, scannedPieces_iff.mpr rfl, fun ps' => scannedPieces_iff.mp, ?_⟩
  intro hvisible
  refine ⟨exists_parse_eq_ok hvisible, ?_⟩
  intro hrefused
  cases hparse : parse {} src with
  | ok g =>
    obtain ⟨p, hp, hnone⟩ := hrefused
    exact absurd ((exists_parse_eq_ok hvisible).mp ⟨g, hparse⟩ p hp) hnone
  | error e =>
    obtain ⟨before, p, after, text, span, reason, hps, hbefore, he, hpoints⟩ :=
      exists_first_refused hvisible hparse
    exact ⟨before, p, after, text, span, reason, hps, hbefore, congrArg Except.error he, hpoints⟩

/-- The blank between the separators takes three bytes. -/
theorem parse_located_dangling :
    parse {} "Age gt 5 _Or\u3000_AndX" = .error (.malformedClause "" ⟨15, 0⟩ (.tokenCount 3 0)) ∧
    ∃ p, PointsAt "Age gt 5 _Or\u3000_AndX".toList p "" ⟨15, 0⟩ (.tokenCount 3 0) := by
  have hparse : parse {} "Age gt 5 _Or\u3000_AndX" =
      .error (.malformedClause "" ⟨15, 0⟩ (.tokenCount 3 0)) := by
    decide +kernel
  obtain ⟨-, -, ps, -, -, h⟩ := parse_located "Age gt 5 _Or\u3000_AndX"
  obtain ⟨haccepted, hrefused⟩ := h (by decide +kernel)
  have hnone : ∃ p ∈ ps, ¬ ∃ c, Clause.read p = .ok c := by
    by_contra hnot
    have hall : ∀ p ∈ ps, ∃ c, Clause.read p = .ok c := by
      intro p hp
      by_contra hc
      exact hnot ⟨p, hp, hc⟩
    obtain ⟨g, hg⟩ := haccepted.mpr hall
    rw [hparse] at hg
    cases hg
  obtain ⟨_, p, _, text, span, reason, -, -, herror, hpoints⟩ := hrefused hnone
  rw [hparse] at herror
  cases herror
  exact ⟨hparse, p, hpoints⟩

end Grouping
end RowFilter
