import RowFilter.Predicate.Compile
import RowFilter.Proofs.Traversal
import RowFilter.Proofs.Predicate.TreeShape

/-!
# What compiling finds out

Compiling a clause is four questions asked in turn, and compiling a grouping asks them of every
clause. This module turns a successful compilation into the answers: `Clause.BoundTo` holds those
of one clause, `Grouping.BoundTo` those of a grouping, with the groups kept apart.

The two trees of a predicate are built separately, one from the comparisons and one from the
tests. `compile_eq_ok` says that they are the two halves of *one* tree of pairs, and from there on
a law about the predicate is a law about that tree. For a law that is not about the tree there is
`accepts_iff_passes`, which says what a predicate accepts clause by clause.
-/

set_option autoImplicit false

namespace RowFilter

variable {τ : Type} {Row : τ → Type}

/-- The comparison and the test say what the clause says, about the rows of a schema. -/
structure Clause.BoundTo (catalog : Catalog Row) (s : Schema Row) (c : Clause)
    (b : Comparison × Test Row) : Prop where
  /-- The path leads to the field of the test. -/
  field : catalog.resolve s c.path = .ok b.2.field
  /-- The literal is a value of the field's kind. -/
  literal : Value.ofLiteral? b.2.field.kind c.literal = some b.2.literal
  /-- The token names the operator. -/
  operator : c.operator? = some b.2.operator
  /-- Only a text is asked for its parts. -/
  text : b.2.operator = .contains → b.2.field.kind = .text
  /-- The comparison shows the clause as written. -/
  comparison : b.1 = ⟨c.path, b.2.operator, c.literal⟩

/-- Every clause of the grouping is bound, group by group. -/
def Grouping.BoundTo (catalog : Catalog Row) (s : Schema Row) (g : Grouping)
    (bound : List (List (Comparison × Test Row))) : Prop :=
  List.Forall₂ (fun group bs => List.Forall₂ (Clause.BoundTo catalog s) group.alternatives bs)
    g.groups bound

theorem Grouping.BoundTo.clauses {catalog : Catalog Row} {s : Schema Row} {g : Grouping}
    {bound : List (List (Comparison × Test Row))} (h : g.BoundTo catalog s bound) :
    List.Forall₂ (Clause.BoundTo catalog s) g.clauses bound.flatten := by
  have hgroups : List.Forall₂ (List.Forall₂ (Clause.BoundTo catalog s))
      (g.groups.map (·.alternatives)) bound := List.forall₂_map_left_iff.mpr h
  rw [Grouping.clauses, List.flatMap_def]
  exact List.rel_flatten hgroups

namespace Predicate

variable {catalog : Catalog Row}

theorem compileClause_eq_ok {s : Schema Row} {c : Clause} {b : Comparison × Test Row} :
    compileClause catalog s c = .ok b ↔ c.BoundTo catalog s b := by
  rw [compileClause, bind_eq_ok]
  constructor
  · rintro ⟨field, hfield, h⟩
    cases hliteral : Value.ofLiteral? field.kind c.literal with
    | none => simp [hliteral] at h
    | some literal =>
      cases hoperator : c.operator? with
      | none => simp [hliteral, hoperator] at h
      | some operator =>
        by_cases htext : operator = .contains ∧ field.kind ≠ .text
        · simp [hliteral, hoperator, htext] at h
        · simp only [hliteral, hoperator, if_neg htext, Except.ok.injEq] at h
          subst h
          refine ⟨hfield, hliteral, hoperator, fun hcontains => ?_, rfl⟩
          by_contra hkind
          exact htext ⟨hcontains, hkind⟩
  · intro h
    obtain ⟨k, test⟩ := b
    have htext : ¬ (test.operator = .contains ∧ test.field.kind ≠ .text) :=
      fun ⟨hcontains, hkind⟩ => hkind (h.text hcontains)
    have hk : k = ⟨c.path, test.operator, c.literal⟩ := h.comparison
    refine ⟨test.field, h.field, ?_⟩
    simp only [h.literal, h.operator, if_neg htext, hk]

/-- A grouping compiles when all its clauses can be bound. What the predicate says and what it asks
are then the two halves of one tree. -/
theorem compile_eq_ok {t : τ} {g : Grouping} {p : Predicate Row t} :
    compile catalog t g = .ok p ↔
      ∃ bound, g.BoundTo catalog (catalog t) bound ∧
        p.expression = (Tree.ofGroups bound).map Prod.fst ∧
        p.root = (Tree.ofGroups bound).map Prod.snd := by
  have hbound : ∀ bound : List (List (Comparison × Test Row)),
      (g.groups.mapM fun group =>
        group.alternatives.mapM (compileClause catalog (catalog t))) = .ok bound ↔
        g.BoundTo catalog (catalog t) bound := by
    intro bound
    simp only [mapM_eq_ok, compileClause_eq_ok]
    rfl
  rw [compile, bind_eq_ok]
  constructor
  · rintro ⟨bound, hb, h⟩
    cases h
    exact ⟨bound, (hbound bound).mp hb, Tree.ofGroups_map _ _, Tree.ofGroups_map _ _⟩
  · rintro ⟨bound, hb, hexpression, hroot⟩
    refine ⟨bound, (hbound bound).mpr hb, ?_⟩
    obtain ⟨expression, root⟩ := p
    simp only at hexpression hroot
    rw [hexpression, hroot, Tree.ofGroups_map, Tree.ofGroups_map]
    rfl

/-! ## What a predicate asks of a row -/

/-- The clause can be bound, and the row passes its test. -/
def Passes (catalog : Catalog Row) {t : τ} (row : Row t) (c : Clause) : Prop :=
  ∃ b, c.BoundTo catalog (catalog t) b ∧ b.2.holds ⟨t, row⟩ = true

/-- A predicate accepts the rows that pass a clause of every group with alternatives. -/
theorem accepts_iff_passes {t : τ} {g : Grouping} {p : Predicate Row t}
    (compiled : compile catalog t g = .ok p) (row : Row t) :
    p.accepts row = true ↔ ∀ group ∈ g.groups, group.alternatives ≠ [] →
      ∃ c ∈ group.alternatives, Passes catalog row c := by
  obtain ⟨bound, hbound, -, hroot⟩ := compile_eq_ok.mp compiled
  rw [accepts, hroot, Tree.eval_map, Tree.eval_ofGroups]
  refine (forall_mem_iff_of_forall₂ hbound fun group bs hbs => imp_congr (not_congr ?_) ?_).symm
  · exact eq_nil_iff_of_forall₂ hbs
  · refine exists_mem_iff_of_forall₂ hbs fun c b hb => ⟨?_, fun h => ⟨b, hb, h⟩⟩
    rintro ⟨b', hb', h⟩
    have heq := (compileClause_eq_ok.mpr hb').symm.trans (compileClause_eq_ok.mpr hb)
    cases heq
    exact h

end Predicate
end RowFilter
