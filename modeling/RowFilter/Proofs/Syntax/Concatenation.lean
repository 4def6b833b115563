import RowFilter.Proofs.Syntax.Scan

/-!
# Filters side by side

A separator between two filters composes their groupings: `_And` puts the groups of the second
behind those of the first, `_Or` makes one group of the last and the first. The clauses of the
first stay as they are, those of the second move by the length of what stands in front of them, and
so do their errors. Nothing is asked of the texts at the seam.

A blank text is no filter to compose with. The empty one accepts every row when it stands alone, but
beside a separator it is an empty clause.
-/

set_option autoImplicit false

namespace RowFilter

open Text (byteLength)

/-- The alternatives of both groups. -/
def OrGroup.merge (g h : OrGroup) : OrGroup := ⟨g.alternatives ++ h.alternatives⟩

namespace Grouping

/-- The byte at which a text starts that stands behind another one and a separator. -/
def startBehind (a sep : String) : Nat := byteLength a.toList + byteLength sep.toList

variable {a b sep : String}

/-! ## The pieces of a blank text -/

theorem separatorFree_of_blank {s : List Char} (h : Text.allBlank s = true) : SeparatorFree s := by
  have hmark : '_' ∉ s := Text.not_mem_of_allBlank (by decide) h
  exact ⟨fun hin => hmark (hin.mem (by decide)), fun hin => hmark (hin.mem (by decide))⟩

theorem flatten_pieces_blank {s : List Char} (h : Text.allBlank s = true) :
    (pieces s).flatten = [⟨0, s⟩] := by
  rw [pieces_of_scanned (Scanned.of_free 0 (separatorFree_of_blank h))]
  rfl

/-- The empty clause of a blank text. -/
theorem mapM_read_blank {s : List Char} (h : Text.allBlank s = true) :
    (pieces s).flatten.mapM Clause.read =
      .error (.malformedClause "" ⟨byteLength s, 0⟩ (.tokenCount 3 0)) := by
  have hread := Clause.read_blank (p := ⟨0, s⟩) h
  rw [Nat.zero_add] at hread
  rw [flatten_pieces_blank h, List.mapM_cons, hread]
  rfl

/-! ## Errors -/

theorem toList_append_append (a sep b : String) :
    (a ++ sep ++ b).toList = a.toList ++ sep.toList ++ b.toList := by
  rw [String.toList_append, String.toList_append]

theorem append_visible (a b : String) (hsep : sep.toList ∈ separators) :
    Text.allBlank (a ++ sep ++ b).toList = false := by
  obtain ⟨t, ht, -⟩ := mark_of_mem_separators hsep
  have hmark : Text.isBlank '_' = false := by decide
  rw [toList_append_append, ht, Text.allBlank]
  simp [hmark]

/-- The first refused piece is one of the first text, or else one of the second text where that
stands. -/
theorem parse_append_eq_error (hsep : sep.toList ∈ separators) {e : ParseError} :
    parse {} (a ++ sep ++ b) = .error e ↔
      ((pieces a.toList).flatten ++
        (pieces b.toList).flatten.map (Piece.shift (startBehind a sep))).mapM Clause.read =
          .error e := by
  rw [parse_eq_error (append_visible a b hsep), toList_append_append, flatten_pieces_append _ _ hsep]
  rfl

theorem parse_append_of_error_left (hsep : sep.toList ∈ separators)
    (ha : Text.allBlank a.toList = false) {e : ParseError} (h : parse {} a = .error e) :
    parse {} (a ++ sep ++ b) = .error e :=
  (parse_append_eq_error hsep).mpr (mapM_append_of_error _ ((parse_eq_error ha).mp h))

theorem parse_append_of_error_right (hsep : sep.toList ∈ separators)
    (ha : Text.allBlank a.toList = false) {A : Grouping} (hA : parse {} a = .ok A) {e : ParseError}
    (h : (pieces b.toList).flatten.mapM Clause.read = .error e) :
    parse {} (a ++ sep ++ b) = .error (e.shift (startBehind a sep)) := by
  have hfirst := (exists_parse_eq_ok ha).mp ⟨A, hA⟩
  have hsecond := Clause.mapM_read_shift_of_error (n := startBehind a sep) h
  exact (parse_append_eq_error hsep).mpr (mapM_append_of_ok hfirst hsecond)

/-! ## Groupings -/

section

variable {A B : Grouping} (ha : Text.allBlank a.toList = false)
  (hb : Text.allBlank b.toList = false) (hA : parse {} a = .ok A) (hB : parse {} b = .ok B)

include ha hb hA hB

theorem parse_append_and :
    parse {} (a ++ "_And" ++ b) =
      .ok ⟨A.groups ++ B.groups.map (OrGroup.shift (startBehind a "_And"))⟩ := by
  have hreadA := readFrom_of_parse (ne_empty_of_visible ha) hA
  have hreadB := readFrom_of_parse (ne_empty_of_visible hb) hB
  refine parse_of_readFrom (append_visible a b (by decide)) ?_
  rw [toList_append_append]
  have hpieces := pieces_append_and a.toList b.toList
  exact hpieces ▸ List.rel_append hreadA hreadB.shift

theorem parse_append_or :
    ∃ init last first rest, A.groups = init ++ [last] ∧ B.groups = first :: rest ∧
      parse {} (a ++ "_Or" ++ b) =
        .ok ⟨init ++ last.merge (first.shift (startBehind a "_Or")) ::
          rest.map (OrGroup.shift (startBehind a "_Or"))⟩ := by
  have hreadA := readFrom_of_parse (ne_empty_of_visible ha) hA
  have hreadB := readFrom_of_parse (ne_empty_of_visible hb) hB
  obtain ⟨psInit, psLast, psFirst, psRest, ha', hb', hpieces⟩ :=
    exists_pieces_append_or a.toList b.toList
  rw [ha'] at hreadA
  rw [hb'] at hreadB
  -- The groups of both are cut where their pieces are.
  obtain ⟨init, tail, hgroupsA, hinit, htail⟩ := exists_append_of_forall₂ hreadA
  obtain ⟨last, none, hlast, hnone, rfl⟩ := List.forall₂_cons_left_iff.mp htail
  obtain rfl := List.forall₂_nil_left_iff.mp hnone
  obtain ⟨first, rest, hfirst, hrest, hgroupsB⟩ := List.forall₂_cons_left_iff.mp hreadB
  refine ⟨init, last, first, rest, hgroupsA, hgroupsB, ?_⟩
  refine parse_of_readFrom (append_visible a b (by decide)) ?_
  rw [toList_append_append]
  have hmerged :=
    List.rel_append hlast (Clause.forall₂_read_shift (n := startBehind a "_Or") hfirst)
  exact hpieces ▸ List.rel_append hinit (.cons hmerged (ReadFrom.shift hrest))

end

/-- **A separator composes filters.** With `_And` the groups of the second filter follow those of
the first, with `_Or` the last group of the first goes on with the first group of the second. An
error of the first filter stays as it is, and one of the second moves behind the first. A blank
text beside a separator is an empty clause, in front of it even if the second text is refused too.
-/
theorem parse_append (a b : String) :
    (∀ A B, Text.allBlank a.toList = false → Text.allBlank b.toList = false →
      parse {} a = .ok A → parse {} b = .ok B →
      parse {} (a ++ "_And" ++ b) =
        .ok ⟨A.groups ++ B.groups.map (OrGroup.shift (startBehind a "_And"))⟩ ∧
      ∃ init last first rest, A.groups = init ++ [last] ∧ B.groups = first :: rest ∧
        parse {} (a ++ "_Or" ++ b) =
          .ok ⟨init ++ last.merge (first.shift (startBehind a "_Or")) ::
            rest.map (OrGroup.shift (startBehind a "_Or"))⟩) ∧
    ∀ sep ∈ ["_And", "_Or"],
      (∀ text span reason, parse {} a = .error (.malformedClause text span reason) →
        parse {} (a ++ sep ++ b) = .error (.malformedClause text span reason)) ∧
      (∀ A text span reason, Text.allBlank a.toList = false → parse {} a = .ok A →
        parse {} b = .error (.malformedClause text span reason) →
        parse {} (a ++ sep ++ b) =
          .error (.malformedClause text (span.shift (startBehind a sep)) reason)) ∧
      (Text.allBlank a.toList = true → parse {} (a ++ sep ++ b) =
        .error (.malformedClause "" ⟨byteLength a.toList, 0⟩ (.tokenCount 3 0))) ∧
      (∀ A, Text.allBlank a.toList = false → parse {} a = .ok A → Text.allBlank b.toList = true →
        parse {} (a ++ sep ++ b) = .error (.malformedClause ""
          ⟨byteLength b.toList + startBehind a sep, 0⟩ (.tokenCount 3 0))) := by
  refine ⟨fun A B ha hb hA hB => ⟨parse_append_and ha hb hA hB, parse_append_or ha hb hA hB⟩, ?_⟩
  intro sep hmem
  have hsep : sep.toList ∈ separators := by
    rcases List.mem_pair.mp hmem with rfl | rfl <;> decide
  refine ⟨?_, ?_, ?_, ?_⟩
  · intro text span reason h
    exact parse_append_of_error_left hsep (visible_of_malformed h) h
  · intro A text span reason ha hA h
    have hb := visible_of_malformed h
    exact parse_append_of_error_right hsep ha hA ((parse_eq_error hb).mp h)
  · intro ha
    exact (parse_append_eq_error hsep).mpr (mapM_append_of_error _ (mapM_read_blank ha))
  · intro A ha hA hb
    exact parse_append_of_error_right hsep ha hA (mapM_read_blank hb)

/-- The first text ends in the first character of a separator. -/
theorem parse_append_seam :
    ∃ A B, parse {} "Age gt 5 _And Name eq x_" = .ok A ∧ parse {} "Age lt 2_Or Street eq 'é'" = .ok B ∧
      (parse {} ("Age gt 5 _And Name eq x_" ++ "_And" ++ "Age lt 2_Or Street eq 'é'") =
          .ok ⟨A.groups ++ B.groups.map (OrGroup.shift 28)⟩ ∧
        ∃ init last first rest, A.groups = init ++ [last] ∧ B.groups = first :: rest ∧
          parse {} ("Age gt 5 _And Name eq x_" ++ "_Or" ++ "Age lt 2_Or Street eq 'é'") =
            .ok ⟨init ++ last.merge (first.shift 27) :: rest.map (OrGroup.shift 27)⟩) ∧
      parse {} ("Age gt" ++ "_Or" ++ "x") =
        .error (.malformedClause "Age gt" ⟨0, 6⟩ (.tokenCount 3 2)) ∧
      parse {} ("Age gt 5" ++ "_Or" ++ " x") =
        .error (.malformedClause "x" ⟨12, 1⟩ (.tokenCount 3 1)) ∧
      parse {} (" " ++ "_And" ++ "x") = .error (.malformedClause "" ⟨1, 0⟩ (.tokenCount 3 0)) ∧
      parse {} ("Age gt 5" ++ "_And" ++ " ") =
        .error (.malformedClause "" ⟨13, 0⟩ (.tokenCount 3 0)) := by
  have hA : parse {} "Age gt 5 _And Name eq x_" =
      .ok ⟨[⟨[⟨⟨["Age"]⟩, "gt", "5", ⟨0, 8⟩⟩]⟩, ⟨[⟨⟨["Name"]⟩, "eq", "x_", ⟨14, 10⟩⟩]⟩]⟩ := by
    decide +kernel
  have hB : parse {} "Age lt 2_Or Street eq 'é'" =
      .ok ⟨[⟨[⟨⟨["Age"]⟩, "lt", "2", ⟨0, 8⟩⟩, ⟨⟨["Street"]⟩, "eq", "é", ⟨12, 14⟩⟩]⟩]⟩ := by
    decide +kernel
  have hone : parse {} "Age gt 5" = .ok ⟨[⟨[⟨⟨["Age"]⟩, "gt", "5", ⟨0, 8⟩⟩]⟩]⟩ := by
    decide +kernel
  obtain ⟨hleft, -, -, -⟩ := (parse_append "Age gt" "x").2 "_Or" (by decide)
  obtain ⟨-, hright, -, -⟩ := (parse_append "Age gt 5" " x").2 "_Or" (by decide)
  obtain ⟨-, -, hfront, -⟩ := (parse_append " " "x").2 "_And" (by decide)
  obtain ⟨-, -, -, hback⟩ := (parse_append "Age gt 5" " ").2 "_And" (by decide)
  exact ⟨_, _, hA, hB, (parse_append _ _).1 _ _ (by decide) (by decide) hA hB,
    hleft _ _ _ (by decide +kernel),
    hright _ "x" ⟨1, 1⟩ (.tokenCount 3 1) (by decide) hone (by decide +kernel),
    hfront (by decide), hback _ (by decide) hone (by decide)⟩

/-- The empty text is read, but it does not hand on the error of the text behind it: its own empty
clause comes first. -/
theorem not_error_behind_empty :
    ¬ ∀ (a b sep : String) (A : Grouping) (text : String) (span : Span) (reason : ClauseDefect),
      sep ∈ ["_And", "_Or"] → parse {} a = .ok A →
      parse {} b = .error (.malformedClause text span reason) →
      parse {} (a ++ sep ++ b) =
        .error (.malformedClause text (span.shift (startBehind a sep)) reason) := by
  intro h
  have herror := h "" "x" "_And" matchAll "x" ⟨0, 1⟩ (.tokenCount 3 1) (by decide) rfl
    (by decide +kernel)
  exact absurd herror (by decide +kernel)

end Grouping
end RowFilter
