import RowFilter.Proofs.Syntax.Limit
import RowFilter.Report.Check

/-!
# Carets under the malformed clause

A span counts bytes, and carets stand under characters. Between the two is `Check.columns`, which
cuts the filter where the span starts and ends and counts what the cuts give; for a span that fits
nowhere it has answers that mean nothing. The span of an error always fits
(`exists_pointsAt_of_parse`), so these answers are never given, and the carets stand under the
clause of the error, character for character, whatever the characters take in bytes.
-/

set_option autoImplicit false

namespace RowFilter.Check

open Text (byteLength)

variable {src clause : String} {span : Span} {reason : ClauseDefect}

/-! ## Outcomes -/

theorem run_of_error (options : CheckOptions) {e : ParseError}
    (h : Grouping.parse ⟨options.maxClauses⟩ src = .error e) :
    run options src = ⟨1, "", errorReport options.color src e⟩ := by
  rw [run, h]

theorem run_of_ok (options : CheckOptions) {g : Grouping}
    (h : Grouping.parse ⟨options.maxClauses⟩ src = .ok g) :
    run options src = ⟨0, successReport options g, ""⟩ := by
  rw [run, h]

/-! ## Columns -/

/-- A span that fits is measured in characters. -/
theorem columns_of_fits {before text after : List Char} (hoffset : span.offset = byteLength before)
    (hlen : span.len = byteLength text) :
    columns (before ++ text ++ after) span = (before.length, text.length) := by
  simp only [columns, hoffset, hlen, List.append_assoc, Text.cutAt_append]

/-- Blanks up to the clause and as many carets as it has characters, one at least. -/
def caretLine (column width : Nat) : String :=
  String.ofList (List.replicate (9 + column) ' ' ++ List.replicate (max 1 width) '^')

theorem pointAt_plain {column width : Nat} (h : columns src.toList span = (column, width)) :
    pointAt false src span = "filter:  " ++ src ++ "\n" ++ caretLine column width ++ "\n" := by
  rw [pointAt, h, caretLine, String.ofList_append, max_comm 1 width]
  simp only [Style.apply, String.append_assoc]
  rfl

/-- The clause of an error is cut out of the filter by its span. -/
theorem exists_around_clause {limit : Option Nat}
    (h : Grouping.parse ⟨limit⟩ src = .error (.malformedClause clause span reason)) :
    ∃ before after, src.toList = before ++ clause.toList ++ after ∧
      span.offset = byteLength before ∧ span.len = byteLength clause.toList := by
  obtain ⟨p, hpoints⟩ := Grouping.exists_pointsAt_of_parse h
  exact Span.textIn?_eq_some.mp hpoints.textIn?

/-- **A check that fails points at the malformed clause.** A filter that is refused makes the check
exit with 1 and write nothing to the output, and one that is read makes it exit with 0 and write no
error. Under a malformed clause stand as many carets as it has characters, or one if it has none,
behind nine blanks for the label and one for every character of the filter in front of the clause:
past that many characters the filter goes on with exactly the clause. Both cuts that the span asks
for exist, so no default is used in their place. -/
theorem run_points_at_clause (json debug : Bool) (limit : Option Nat) (src : String) :
    (∀ e, Grouping.parse ⟨limit⟩ src = .error e →
      (run ⟨json, debug, limit, false⟩ src).exitCode = 1 ∧
      (run ⟨json, debug, limit, false⟩ src).stdout = "") ∧
    (∀ g, Grouping.parse ⟨limit⟩ src = .ok g →
      (run ⟨json, debug, limit, false⟩ src).exitCode = 0 ∧
      (run ⟨json, debug, limit, false⟩ src).stderr = "") ∧
    ∀ clause span reason,
      Grouping.parse ⟨limit⟩ src = .error (.malformedClause clause span reason) →
      ∃ before after, src.toList = before ++ clause.toList ++ after ∧
        (run ⟨json, debug, limit, false⟩ src).stderr = "filter:  " ++ src ++ "\n" ++
          caretLine before.length clause.length ++ "\n" ++
          "error: " ++ (ParseError.malformedClause clause span reason).message ++ "\n" ∧
        (src.toList.drop before.length).take clause.length = clause.toList ∧
        Text.cutAt span.offset src.toList = some (before, clause.toList ++ after) ∧
        Text.cutAt span.len (clause.toList ++ after) = some (clause.toList, after) := by
  refine ⟨?_, ?_, ?_⟩
  · intro e h
    rw [run_of_error ⟨json, debug, limit, false⟩ h]
    exact ⟨rfl, rfl⟩
  · intro g h
    rw [run_of_ok ⟨json, debug, limit, false⟩ h]
    exact ⟨rfl, rfl⟩
  · intro clause span reason h
    obtain ⟨before, after, hsrc, hoffset, hlen⟩ := exists_around_clause h
    have hcolumns : columns src.toList span = (before.length, clause.length) := by
      rw [hsrc, columns_of_fits hoffset hlen, String.length_toList]
    refine ⟨before, after, hsrc, ?_, ?_, ?_, ?_⟩
    · rw [run_of_error ⟨json, debug, limit, false⟩ h]
      show pointAt false src span ++ errorLine false _ = _
      rw [pointAt_plain hcolumns]
      simp only [errorLine, Style.apply, String.append_assoc]
      rfl
    · rw [hsrc, ← String.length_toList, List.append_assoc, List.drop_left, List.take_left]
    · rw [hsrc, hoffset, List.append_assoc, Text.cutAt_append]
    · rw [hlen, Text.cutAt_append]

/-- Wide characters stand before the clause and inside it, and the clause that is over the limit is
malformed first. The other filter ends where a clause should be. -/
theorem run_points_at_clause_wide :
    (run ⟨true, true, some 1, false⟩ "Größe gt 5 _And ü😀").exitCode = 1 ∧
    (run ⟨true, true, some 1, false⟩ "Größe gt 5 _And ü😀").stdout = "" ∧
    (run ⟨true, true, some 1, false⟩ "Größe gt 5 _And ü😀").stderr =
      "filter:  " ++ "Größe gt 5 _And ü😀" ++ "\n" ++ caretLine 16 2 ++ "\n" ++
      "error: " ++ "malformed clause `ü😀`: expected 3 tokens but found 1" ++ "\n" ∧
    (run ⟨false, true, none, false⟩ "é eq 1 _Or ").stderr =
      "filter:  " ++ "é eq 1 _Or " ++ "\n" ++ caretLine 11 0 ++ "\n" ++
      "error: " ++ "malformed clause ``: expected 3 tokens but found 0" ++ "\n" ∧
    (run ⟨true, false, none, false⟩ "é eq 1").exitCode = 0 ∧
    (run ⟨true, false, none, false⟩ "é eq 1").stderr = "" := by
  have hwide : Grouping.parse ⟨some 1⟩ "Größe gt 5 _And ü😀" =
      .error (.malformedClause "ü😀" ⟨18, 6⟩ (.tokenCount 3 1)) := by
    decide +kernel
  have hempty : Grouping.parse ⟨none⟩ "é eq 1 _Or " =
      .error (.malformedClause "" ⟨12, 0⟩ (.tokenCount 3 0)) := by
    decide +kernel
  have hread : Grouping.parse ⟨none⟩ "é eq 1" =
      .ok ⟨[⟨[⟨⟨["é"]⟩, "eq", "1", ⟨0, 7⟩⟩]⟩]⟩ := by
    decide +kernel
  have hcut : (Text.cutAt 18 "Größe gt 5 _And ü😀".toList).map Prod.fst =
      some "Größe gt 5 _And ".toList := by
    decide +kernel
  have hcut' : (Text.cutAt 12 "é eq 1 _Or ".toList).map Prod.fst = some "é eq 1 _Or ".toList := by
    decide +kernel
  obtain ⟨herror, -, hpoints⟩ := run_points_at_clause true true (some 1) "Größe gt 5 _And ü😀"
  obtain ⟨-, -, hpoints'⟩ := run_points_at_clause false true none "é eq 1 _Or "
  obtain ⟨before, after, -, hstderr, -, hbefore, -⟩ := hpoints _ _ _ hwide
  obtain ⟨before', after', -, hstderr', -, hbefore', -⟩ := hpoints' _ _ _ hempty
  rw [hbefore] at hcut
  rw [hbefore'] at hcut'
  obtain rfl : before = "Größe gt 5 _And ".toList := Option.some_inj.mp hcut
  obtain rfl : before' = "é eq 1 _Or ".toList := Option.some_inj.mp hcut'
  refine ⟨(herror _ hwide).1, (herror _ hwide).2, hstderr, hstderr', ?_⟩
  exact (run_points_at_clause true false none "é eq 1").2.1 _ hread

end RowFilter.Check
