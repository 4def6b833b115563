import RowFilter.Predicate.Meaning
import RowFilter.Proofs.Predicate.Acceptance
import RowFilter.Proofs.Syntax.Reading

/-!
# What a predicate says and what it does

A predicate holds two trees. The expression is for readers, the tree of tests is for rows, and
nothing in a predicate ties the one to the other. They agree because they are the two halves of one
tree of bound clauses: the interpreter of expressions asks at each comparison what compiling asked
once, and gets the answer that the test at the same place has kept.

`expression_agrees` says this for rows, and then what the expression looks like: its leaves are the
clauses in order and its shape is the grouping.
-/

set_option autoImplicit false

namespace RowFilter

variable {τ : Type} {Row : τ → Type} {catalog : Catalog Row}

/-- The comparison has the path and the literal of the clause, and the operator it names. -/
structure Clause.ShownAs (c : Clause) (k : Comparison) : Prop where
  path : k.path = c.path
  literal : k.literal = c.literal
  operator : c.operator? = some k.operator

theorem Clause.BoundTo.shownAs {s : Schema Row} {c : Clause} {b : Comparison × Test Row}
    (h : c.BoundTo catalog s b) : c.ShownAs b.1 := by
  rw [h.comparison]
  exact ⟨rfl, rfl, h.operator⟩

/-- A part is in a text if it stands at some place there, the end included. -/
theorem Text.prefix_at_place_iff (part s : List Char) :
    ((List.range (s.length + 1)).any fun place => part.isPrefixOf (s.drop place)) = true ↔
      part <:+: s := by
  simp only [List.any_eq_true, List.mem_range, List.isPrefixOf_iff_prefix]
  constructor
  · rintro ⟨place, -, h⟩
    exact h.isInfix.trans (List.drop_suffix place s).isInfix
  · rintro ⟨front, back, rfl⟩
    refine ⟨front.length, ?_, back, ?_⟩
    · simp only [List.length_append]
      omega
    · rw [List.append_assoc, List.drop_left]

/-- A test relates two values as the operator means. -/
theorem Operator.means_eq_relates (op : Operator) (v l : Value) : op.means v l = op.relates v l := by
  cases op with
  | equal | lessThan | greaterThan => rfl
  | lessOrEqual | greaterOrEqual => simp [means, relates, Value.le, Value.ge]
  | contains =>
    cases v with
    | text s =>
      cases l with
      | text part =>
        rw [Bool.eq_iff_iff]
        exact (Text.prefix_at_place_iff _ _).trans (Text.occursIn_iff_infix _ _).symm
      | _ => rfl
    | _ => rfl

/-- A comparison asks of a row what the test beside it does. -/
theorem Clause.BoundTo.meaning_eq {t : τ} {c : Clause} {b : Comparison × Test Row}
    (h : c.BoundTo catalog (catalog t) b) (row : Row t) :
    b.1.meaning catalog t row = b.2.holds ⟨t, row⟩ := by
  rw [Comparison.meaning, Test.holds, h.comparison]
  simp only [h.field, h.literal]
  cases b.2.field.read ⟨t, row⟩ with
  | none => rfl
  | some v => exact b.2.operator.means_eq_relates v b.2.literal

/-- The interpreter goes down the tree as every evaluation does. -/
theorem Expression.meaning_eq_eval {t : τ} {row : Row t} (e : Expression) :
    e.meaning catalog t row = e.eval (Comparison.meaning catalog t row) := by
  induction e with
  | always | leaf c => rfl
  | and l r ihl ihr | or l r ihl ihr => rw [meaning, ihl, ihr, Tree.eval]

/-- The comparisons of a predicate show the clauses of its grouping, in order. -/
theorem Predicate.shownAs_leaves {t : τ} {g : Grouping} {p : Predicate Row t}
    (compiled : compile catalog t g = .ok p) :
    List.Forall₂ Clause.ShownAs g.clauses p.expression.leaves := by
  obtain ⟨bound, hbound, hexpression, -⟩ := compile_eq_ok.mp compiled
  rw [hexpression, Tree.leaves_map, Tree.leaves_ofGroups, List.forall₂_map_right_iff]
  exact hbound.clauses.imp fun c b hb => hb.shownAs

/-- **The expression of a predicate means what the predicate does**, for every row. Its leaves are
the clauses in order; its shape is that of the groups that are not empty, nested to the left; and it
is `always` only where there is no clause, which for a text means that the text is empty. -/
theorem Predicate.expression_agrees {t : τ} {g : Grouping} {p : Predicate Row t}
    (compiled : compile catalog t g = .ok p) :
    (∀ row, p.accepts row = p.expression.meaning catalog t row) ∧
    (List.Forall₂ Clause.ShownAs g.clauses p.expression.leaves ∧
      p.expression.count = g.clauses.length) ∧
    (∃ shown, List.Forall₂
        (fun group ks => List.Forall₂ Clause.ShownAs group.alternatives ks) g.groups shown ∧
      p.expression.GroupedAs shown) ∧
    (p.expression = .always ↔ g.clauses = []) ∧
    (∀ options src, Grouping.parse options src = .ok g → (p.expression = .always ↔ src = "")) := by
  obtain ⟨bound, hbound, hexpression, hroot⟩ := compile_eq_ok.mp compiled
  have hleaves := shownAs_leaves compiled
  have halways : p.expression = .always ↔ g.clauses = [] := by
    rw [hexpression, ← Tree.ofGroups_map, Tree.ofGroups_eq_always_iff, ← List.map_flatten,
      List.map_eq_nil_iff]
    exact (eq_nil_iff_of_forall₂ hbound.clauses).symm
  refine ⟨fun row => ?_, ⟨hleaves, ?_⟩, ⟨bound.map (·.map Prod.fst), ?_, ?_⟩, halways, ?_⟩
  · rw [accepts, hroot, Tree.eval_map, Expression.meaning_eq_eval, hexpression, Tree.eval_map]
    refine Tree.eval_congr fun b hb => ?_
    rw [Tree.leaves_ofGroups] at hb
    obtain ⟨c, -, hc⟩ := exists_of_mem_forall₂ hbound.clauses.flip hb
    exact (hc.meaning_eq row).symm
  · rw [Tree.count_eq_length_leaves, hleaves.length_eq]
  · rw [List.forall₂_map_right_iff]
    refine hbound.imp fun group bs hbs => ?_
    rw [List.forall₂_map_right_iff]
    exact hbs.imp fun c b hb => hb.shownAs
  · rw [hexpression, ← Tree.ofGroups_map]
    exact Tree.groupedAs_ofGroups _
  · intro options src hsrc
    exact halways.trans (Grouping.clauses_eq_nil_iff_of_parse hsrc)

/-- A row that is accepted and one that is not, by the predicate and by its expression. -/
theorem Predicate.expression_agrees_neighbours :
    ∃ p : Predicate People.Rows .person,
      compile People.catalog .person People.neighbours = .ok p ∧
      p.accepts People.ann = true ∧
      p.expression.meaning People.catalog .person People.ann = true ∧
      p.accepts People.ben = false ∧
      p.expression.meaning People.catalog .person People.ben = false ∧
      p.expression.count = 3 := by
  obtain ⟨p, hp⟩ := People.neighbours_compiles
  obtain ⟨hann, hben⟩ := People.accepts_neighbours hp
  obtain ⟨hmeaning, ⟨-, hcount⟩, -⟩ := expression_agrees hp
  exact ⟨p, hp, hann, (hmeaning People.ann).symm.trans hann, hben,
    (hmeaning People.ben).symm.trans hben, hcount⟩

end RowFilter
