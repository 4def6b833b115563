import RowFilter.Proofs.Syntax.ClauseText
import RowFilter.Proofs.Syntax.Reading

/-!
# Reading further on

A piece that stands further on in a filter is read alike: what is read is the same clause or the
same error, with a span that starts as many bytes later. So what is known of a text alone is known
of it at the end of a longer one.
-/

set_option autoImplicit false

namespace RowFilter

variable {n : Nat}

def Span.shift (n : Nat) (s : Span) : Span := ⟨s.offset + n, s.len⟩

def Piece.shift (n : Nat) (p : Piece) : Piece := ⟨p.offset + n, p.text⟩

def Clause.shift (n : Nat) (c : Clause) : Clause := { c with span := c.span.shift n }

def OrGroup.shift (n : Nat) (g : OrGroup) : OrGroup := ⟨g.alternatives.map (Clause.shift n)⟩

/-- Only a malformed clause has a place. -/
def ParseError.shift (n : Nat) : ParseError → ParseError
  | malformedClause clause span reason => .malformedClause clause (span.shift n) reason
  | emptyExpression => .emptyExpression
  | tooManyClauses count max => .tooManyClauses count max

namespace Clause

theorem spanOf_shift (n : Nat) (p : Piece) : spanOf (p.shift n) = (spanOf p).shift n := by
  unfold spanOf Piece.shift Span.shift
  rw [Nat.add_right_comm]

theorem read_shift_of_ok {p : Piece} {c : Clause} (h : read p = .ok c) :
    read (p.shift n) = .ok (c.shift n) := by
  obtain ⟨hparts, hpath, hspan⟩ := read_eq_ok.mp h
  refine read_eq_ok.mpr ⟨hparts, hpath, ?_⟩
  rw [spanOf_shift, ← hspan]
  rfl

theorem read_shift_of_error {p : Piece} {e : ParseError} (h : read p = .error e) :
    read (p.shift n) = .error (e.shift n) := by
  have htext : (p.shift n).text = p.text := rfl
  dsimp only [read] at h ⊢
  rw [spanOf_shift, htext]
  -- The cases of the reading are those of the reading further on.
  split at h
  · cases h
    rfl
  · split at h <;> cases h
    rfl

/-- The first malformed piece of a list is the first one further on. -/
theorem mapM_read_shift_of_error {ps : List Piece} {e : ParseError} (h : ps.mapM read = .error e) :
    (ps.map (Piece.shift n)).mapM read = .error (e.shift n) := by
  obtain ⟨before, p, after, rfl, hbefore, hp⟩ := mapM_eq_error.mp h
  refine mapM_eq_error.mpr ⟨before.map (Piece.shift n), p.shift n, after.map (Piece.shift n), ?_, ?_,
    read_shift_of_error hp⟩
  · rw [List.map_append, List.map_cons]
  · intro q hq
    obtain ⟨b, hb, rfl⟩ := List.mem_map.mp hq
    obtain ⟨c, hc⟩ := hbefore b hb
    exact ⟨c.shift n, read_shift_of_ok hc⟩

theorem forall₂_read_shift {ps : List Piece} {cs : List Clause}
    (h : List.Forall₂ (fun p c => read p = .ok c) ps cs) :
    List.Forall₂ (fun p c => read p = .ok c) (ps.map (Piece.shift n)) (cs.map (Clause.shift n)) := by
  rw [List.forall₂_map_left_iff, List.forall₂_map_right_iff]
  exact h.imp fun p c hc => read_shift_of_ok hc

end Clause

theorem Grouping.ReadFrom.shift {pieces : List (List Piece)} {groups : List OrGroup}
    (h : ReadFrom pieces groups) :
    ReadFrom (pieces.map (List.map (Piece.shift n))) (groups.map (OrGroup.shift n)) := by
  unfold ReadFrom
  rw [List.forall₂_map_left_iff, List.forall₂_map_right_iff]
  exact List.Forall₂.imp (fun ps group hps => Clause.forall₂_read_shift hps) h

end RowFilter
