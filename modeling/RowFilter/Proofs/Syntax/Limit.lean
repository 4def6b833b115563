import RowFilter.Proofs.Syntax.Location

/-!
# A limit on the number of clauses

With a limit of `max` clauses at most `max + 1` pieces of a filter are looked at: the clause that
exceeds the limit is still read, and then the reading stops. So a limited reading is one of two
things, and the number of pieces says which. With no more than `max` of them it is the reading
without a limit. With more it reads the first `max + 1` pieces in the order of the text and refuses
the filter, unless one of these is refused before (`parse_some`).

The counter runs on from group to group, and so does the rule: it is one rule for the pieces of all
groups together.
-/

set_option autoImplicit false

namespace RowFilter
namespace Grouping

variable {max count : Nat}

/-! ## Counting up to the limit -/

/-- Reads pieces, one more than the limit allows, and then refuses their number. -/
def refuseAfter {α : Type} (max : Nat) (ps : List Piece) : Except ParseError α := do
  let _ ← ps.mapM Clause.read
  .error (.tooManyClauses (max + 1) max)

theorem refuseAfter_append {α : Type} (ps qs : List Piece) :
    (refuseAfter max (ps ++ qs) : Except ParseError α) =
      ps.mapM Clause.read >>= fun _ => refuseAfter max qs := by
  rw [refuseAfter, List.mapM_append]
  cases ps.mapM Clause.read with
  | error e => rfl
  | ok cs =>
    rw [refuseAfter]
    cases qs.mapM Clause.read <;> rfl

theorem refuseAfter_bind {α β : Type} (ps : List Piece) (f : α → Except ParseError β) :
    refuseAfter max ps >>= f = refuseAfter max ps := by
  rw [refuseAfter, refuseAfter]
  cases ps.mapM Clause.read <;> rfl

/-- In a group the limit lets as many pieces be read as are left of it, and one more. -/
theorem readAlternatives_some (ps : List Piece) (hcount : count ≤ max) :
    readAlternatives (some max) count ps =
      if count + ps.length ≤ max then readAlternatives none count ps
      else refuseAfter max (ps.take (max + 1 - count)) := by
  induction ps generalizing count with
  | nil => exact (if_pos hcount).symm
  | cons p ps ih =>
    have htake : (p :: ps).take (max + 1 - count) = [p] ++ ps.take (max - count) := by
      rw [Nat.succ_sub hcount, List.take_succ_cons, List.singleton_append]
    rw [htake, refuseAfter_append, List.length_cons, readAlternatives, readAlternatives,
      List.mapM_cons, List.mapM_nil]
    cases hp : Clause.read p with
    | error e => split <;> rfl
    | ok c =>
      rcases Nat.lt_or_eq_of_le hcount with hlt | rfl
      · have hstep := ih (Nat.add_one_le_of_lt hlt)
        rw [Nat.add_sub_add_right, Nat.add_assoc, Nat.add_comm 1] at hstep
        simp only [checkLimit, Nat.not_lt.mpr hlt, if_false]
        show (readAlternatives (some max) (count + 1) ps >>= _) = _
        rw [hstep]
        split
        · rfl
        · exact refuseAfter_bind _ _
      · have hexceeds : ¬ count + (ps.length + 1) ≤ count := by omega
        rw [if_neg hexceeds, Nat.sub_self, List.take_zero]
        simp only [checkLimit, Nat.lt_succ_self, if_true]
        rfl

/-- Over groups the limit lets as many pieces be read, in the order of the text. -/
theorem readGroups_some (pieces : List (List Piece)) (hcount : count ≤ max) :
    readGroups (some max) count pieces =
      if count + pieces.flatten.length ≤ max then readGroups none count pieces
      else refuseAfter max (pieces.flatten.take (max + 1 - count)) := by
  induction pieces generalizing count with
  | nil => exact (if_pos hcount).symm
  | cons ps pieces ih =>
    rw [readGroups, readGroups, readAlternatives_some ps hcount, List.flatten_cons,
      List.length_append]
    by_cases hps : count + ps.length ≤ max
    · -- The group stays within the limit, and the later groups have what is left of it.
      have hleft : max + 1 - count - ps.length = max + 1 - (count + ps.length) := by omega
      rw [if_pos hps, readAlternatives_none, List.take_append, List.take_of_length_le (by omega),
        hleft, refuseAfter_append, ← Nat.add_assoc]
      cases ps.mapM Clause.read with
      | error e => split <;> rfl
      | ok cs =>
        show (readGroups (some max) (count + ps.length) pieces >>= _) = _
        rw [ih hps]
        split
        · rfl
        · exact refuseAfter_bind _ _
    · have hexceeds : ¬ count + (ps.length + pieces.flatten.length) ≤ max := by omega
      rw [if_neg hps, if_neg hexceeds, refuseAfter_bind, List.take_append_of_le_length (by omega)]

/-- **What a limit does.** A filter with no more pieces than the limit is read as without it.
Otherwise one piece more than the limit is read, and if none of these is refused the filter is. -/
theorem parse_some {src : String} (hvisible : Text.allBlank src.toList = false) (max : Nat) :
    parse ⟨some max⟩ src =
      if (pieces src.toList).flatten.length ≤ max then parse {} src
      else refuseAfter max ((pieces src.toList).flatten.take (max + 1)) := by
  have hempty := isEmpty_toList (ne_empty_of_visible hvisible)
  have hread := readGroups_some (pieces src.toList) (Nat.zero_le max)
  rw [Nat.zero_add, Nat.sub_zero] at hread
  rw [parse, read, hempty, hvisible, if_neg Bool.false_ne_true, if_neg Bool.false_ne_true, hread,
    parse, read, hempty, hvisible, if_neg Bool.false_ne_true, if_neg Bool.false_ne_true]
  split
  · rfl
  · exact refuseAfter_bind _ _

/-! ## Two readings of one filter -/

/-- Piece number `k` of the filter, counted from one in the order of the text, is refused with the
error, and no piece before it is refused. -/
def FirstRefused (src : List Char) (k : Nat) (e : ParseError) : Prop :=
  ∃ before p after, ScannedPieces src (before ++ p :: after) ∧ before.length + 1 = k ∧
    (∀ b ∈ before, ∃ c, Clause.read b = .ok c) ∧ Clause.read p = .error e

theorem refuseAfter_of_readable {α : Type} {ps : List Piece}
    (h : ∀ p ∈ ps, ∃ c, Clause.read p = .ok c) :
    (refuseAfter max ps : Except ParseError α) = .error (.tooManyClauses (max + 1) max) := by
  obtain ⟨cs, hcs⟩ := exists_mapM_eq_ok.mpr h
  rw [refuseAfter, hcs]
  rfl

theorem refuseAfter_of_refused {α : Type} {before after : List Piece} {p : Piece} {e : ParseError}
    (hbefore : ∀ b ∈ before, ∃ c, Clause.read b = .ok c) (hp : Clause.read p = .error e) :
    (refuseAfter max (before ++ p :: after) : Except ParseError α) = .error e := by
  rw [refuseAfter, mapM_eq_error.mpr ⟨before, p, after, rfl, hbefore, hp⟩]
  rfl

/-- A filter that has been read has as many pieces as its grouping has clauses. -/
theorem length_flatten_pieces {src : String} {g : Grouping} (hne : src ≠ "")
    (h : parse {} src = .ok g) : (pieces src.toList).flatten.length = g.clauses.length := by
  have hgroups : List.Forall₂ (List.Forall₂ fun p c => Clause.read p = .ok c)
      (pieces src.toList) (g.groups.map (·.alternatives)) :=
    List.forall₂_map_right_iff.mpr (readFrom_of_parse hne h)
  rw [clauses, List.flatMap_def]
  exact (List.rel_flatten hgroups).length_eq

theorem parse_some_of_ok {src : String} {g : Grouping} (h : parse {} src = .ok g) (max : Nat) :
    parse ⟨some max⟩ src =
      if g.clauses.length ≤ max then .ok g else .error (.tooManyClauses (max + 1) max) := by
  cases hblank : Text.allBlank src.toList with
  | true =>
    -- Only the empty text is blank and read, and its grouping has no clauses.
    have hempty : src = "" := by
      by_contra hne
      rw [parse_blank hne hblank] at h
      cases h
    rw [hempty] at h ⊢
    cases h
    exact (if_pos (Nat.zero_le max)).symm
  | false =>
    have hread := (exists_parse_eq_ok hblank).mp ⟨g, h⟩
    rw [parse_some hblank, length_flatten_pieces (ne_empty_of_visible hblank) h, h,
      refuseAfter_of_readable fun p hp => hread p (List.mem_of_mem_take hp)]

theorem exists_firstRefused {src : String} {text : String} {span : Span} {reason : ClauseDefect}
    (h : parse {} src = .error (.malformedClause text span reason)) :
    ∃ k, FirstRefused src.toList k (.malformedClause text span reason) := by
  obtain ⟨before, p, after, hpieces, hbefore, hp⟩ :=
    mapM_eq_error.mp ((parse_eq_error (visible_of_malformed h)).mp h)
  exact ⟨before.length + 1, before, p, after, scannedPieces_iff.mpr hpieces.symm, rfl, hbefore, hp⟩

theorem parse_some_of_error {src : String} {text : String} {span : Span} {reason : ClauseDefect}
    (h : parse {} src = .error (.malformedClause text span reason)) {k : Nat}
    (hfirst : FirstRefused src.toList k (.malformedClause text span reason)) (max : Nat) :
    parse ⟨some max⟩ src = .error (if k ≤ max + 1 then .malformedClause text span reason
      else .tooManyClauses (max + 1) max) := by
  obtain ⟨before, p, after, hscanned, rfl, hbefore, hp⟩ := hfirst
  have hpieces := (scannedPieces_iff.mp hscanned).symm
  rw [parse_some (visible_of_malformed h), hpieces, h, List.length_append, List.length_cons]
  by_cases hk : before.length + 1 ≤ max + 1
  · -- The refused piece is one of those that are read, with the limit or without.
    have htake : (before ++ p :: after).take (max + 1) =
        before ++ p :: after.take (max - before.length) := by
      rw [List.take_append, List.take_of_length_le (by omega),
        show max + 1 - before.length = max - before.length + 1 by omega, List.take_succ_cons]
    rw [htake, refuseAfter_of_refused hbefore hp, if_pos hk, ite_self]
  · have hexceeds : ¬ before.length + (after.length + 1) ≤ max := by omega
    rw [if_neg hexceeds, if_neg hk, List.take_append_of_le_length (by omega)]
    exact refuseAfter_of_readable fun b hb => hbefore b (List.mem_of_mem_take hb)

/-- What has been read within the limit is read without it. -/
theorem parse_eq_ok_of_limited {src : String} {g : Grouping} (h : parse ⟨some max⟩ src = .ok g) :
    parse {} src = .ok g ∧ g.clauses.length ≤ max := by
  cases hfree : parse {} src with
  | ok g' =>
    rw [parse_some_of_ok hfree] at h
    split at h
    · next hle =>
      cases h
      exact ⟨rfl, hle⟩
    · cases h
  | error e =>
    cases hblank : Text.allBlank src.toList with
    | true =>
      have hne : src ≠ "" := by
        rintro rfl
        cases hfree
      rw [parse_blank hne hblank] at h
      cases h
    | false =>
      obtain ⟨_, _, _, text, span, reason, -, -, rfl, -⟩ := exists_first_refused hblank hfree
      obtain ⟨k, hfirst⟩ := exists_firstRefused hfree
      rw [parse_some_of_error hfree hfirst] at h
      cases h

theorem mapM_read_of_refuseAfter {α : Type} {ps : List Piece} {e : ParseError}
    (h : (refuseAfter max ps : Except ParseError α) = .error e)
    (he : e ≠ .tooManyClauses (max + 1) max) : ps.mapM Clause.read = .error e := by
  rw [refuseAfter] at h
  cases hread : ps.mapM Clause.read with
  | error e' =>
    rw [hread] at h
    cases h
    rfl
  | ok cs =>
    rw [hread] at h
    exact absurd (Except.error.inj h).symm he

/-- With a limit as without one, an error about a clause is that of a piece of the filter. -/
theorem exists_pointsAt_of_parse {options : ParseOptions} {src text : String} {span : Span}
    {reason : ClauseDefect} (h : parse options src = .error (.malformedClause text span reason)) :
    ∃ p, PointsAt src.toList p text span reason := by
  have hvisible := visible_of_malformed h
  have hread : ∃ n, ((pieces src.toList).flatten.take n).mapM Clause.read =
      .error (.malformedClause text span reason) := by
    have hall : parse {} src = .error (.malformedClause text span reason) →
        ∃ n, ((pieces src.toList).flatten.take n).mapM Clause.read =
          .error (.malformedClause text span reason) := by
      intro hfree
      refine ⟨(pieces src.toList).flatten.length, ?_⟩
      rw [List.take_length]
      exact (parse_eq_error hvisible).mp hfree
    obtain ⟨limit⟩ := options
    cases limit with
    | none => exact hall h
    | some max =>
      rw [parse_some hvisible] at h
      split at h
      · exact hall h
      · exact ⟨max + 1, mapM_read_of_refuseAfter h (by simp)⟩
  obtain ⟨n, hread⟩ := hread
  obtain ⟨before, p, after, htake, -, hp⟩ := mapM_eq_error.mp hread
  have hmem : p ∈ (pieces src.toList).flatten := by
    apply List.mem_of_mem_take (i := n)
    rw [htake]
    simp
  obtain ⟨_, _, _, heq, hpoints⟩ := pointsAt_of_read hmem hp
  cases heq
  exact ⟨p, hpoints⟩

/-- **The limit only cuts off, and at the clause that exceeds it.** A filter that is read without a
limit is read as the same grouping with it, unless it has more clauses. One that is malformed is so
with the limit too, if the first refused clause is at most one beyond it, and has too many clauses
otherwise. The empty filter and the blank ones are what they are, and a higher limit changes nothing
about a filter that has been read. -/
theorem parse_limited (src : String) (max : Nat) :
    (∀ g, parse {} src = .ok g → parse ⟨some max⟩ src =
      if g.clauses.length ≤ max then .ok g else .error (.tooManyClauses (max + 1) max)) ∧
    (∀ text span reason, parse {} src = .error (.malformedClause text span reason) →
      (∃ k, FirstRefused src.toList k (.malformedClause text span reason)) ∧
      ∀ k, FirstRefused src.toList k (.malformedClause text span reason) →
        parse ⟨some max⟩ src = .error (if k ≤ max + 1 then .malformedClause text span reason
          else .tooManyClauses (max + 1) max)) ∧
    (src = "" → parse ⟨some max⟩ src = .ok matchAll) ∧
    (src ≠ "" → Text.allBlank src.toList = true →
      parse ⟨some max⟩ src = .error .emptyExpression) ∧
    (∀ g, parse ⟨some max⟩ src = .ok g → parse {} src = .ok g ∧
      ∀ higher, max ≤ higher → parse ⟨some higher⟩ src = .ok g) := by
  refine ⟨fun g h => parse_some_of_ok h max, fun text span reason h => ⟨exists_firstRefused h,
    fun k hfirst => parse_some_of_error h hfirst max⟩, ?_, parse_blank, fun g h => ?_⟩
  · rintro rfl
    rfl
  · obtain ⟨hfree, hle⟩ := parse_eq_ok_of_limited h
    refine ⟨hfree, fun higher hhigher => ?_⟩
    rw [parse_some_of_ok hfree, if_pos (hle.trans hhigher)]

/-- The second group makes the count go past the limit before the fourth clause is looked at, and a
limit that is one higher lets its defect be seen. -/
theorem parse_limited_fourth :
    parse {} "a eq 1 _Or b eq 2 _And c eq 3 _And d" =
      .error (.malformedClause "d" ⟨35, 1⟩ (.tokenCount 3 1)) ∧
    (∃ k, FirstRefused "a eq 1 _Or b eq 2 _And c eq 3 _And d".toList k
        (.malformedClause "d" ⟨35, 1⟩ (.tokenCount 3 1)) ∧
      parse ⟨some 2⟩ "a eq 1 _Or b eq 2 _And c eq 3 _And d" = .error (if k ≤ 3
        then .malformedClause "d" ⟨35, 1⟩ (.tokenCount 3 1) else .tooManyClauses 3 2)) ∧
    ∃ g, parse {} "a eq 1 _Or b eq 2" = .ok g ∧ parse ⟨some 2⟩ "a eq 1 _Or b eq 2" = .ok g ∧
      parse ⟨some 1⟩ "a eq 1 _Or b eq 2" = .error (.tooManyClauses 2 1) := by
  have herror : parse {} "a eq 1 _Or b eq 2 _And c eq 3 _And d" =
      .error (.malformedClause "d" ⟨35, 1⟩ (.tokenCount 3 1)) := by
    decide +kernel
  have hok : parse {} "a eq 1 _Or b eq 2" =
      .ok ⟨[⟨[⟨⟨["a"]⟩, "eq", "1", ⟨0, 6⟩⟩, ⟨⟨["b"]⟩, "eq", "2", ⟨11, 6⟩⟩]⟩]⟩ := by
    decide +kernel
  obtain ⟨⟨k, hfirst⟩, hlimited⟩ := (parse_limited _ 2).2.1 _ _ _ herror
  exact ⟨herror, ⟨k, hfirst, hlimited k hfirst⟩,
    _, hok, (parse_limited _ 2).1 _ hok, (parse_limited _ 1).1 _ hok⟩

end Grouping
end RowFilter
