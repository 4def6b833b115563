import RowFilter.Proofs.Predicate.Binding
import RowFilter.Proofs.Row.People
import RowFilter.Proofs.Row.Walk

/-!
# Which rows a predicate accepts

A clause *holds on* a row when the value that its path leads to stands in the relation that its
token names to the literal, read as a value of the same kind. That is all there is to a filter:
`accepts_iff_holdsOn` says that a predicate accepts the rows on which every group that is not empty
has a clause that holds, and that each of its clauses has exactly one value to compare.
-/

set_option autoImplicit false

namespace RowFilter

/-! ## What a token asks of two values -/

/-- The lower-case token names a relation in which the value stands to the literal. -/
def TokenHolds (token : String) (v l : Value) : Prop :=
  (token = "eq" ∧ v.equals l = true) ∨
  (token = "lt" ∧ v.compare? l = some .lt) ∨
  (token = "gt" ∧ v.compare? l = some .gt) ∨
  (token = "le" ∧ (v.compare? l = some .lt ∨ v.compare? l = some .eq)) ∨
  (token = "ge" ∧ (v.compare? l = some .gt ∨ v.compare? l = some .eq)) ∨
  (token = "cn" ∧ ∃ text part : String, v = .text text ∧ l = .text part ∧
    part.toList <:+: text.toList)

theorem Text.occursIn_iff_infix (needle s : List Char) :
    occursIn needle s = true ↔ needle <:+: s := by
  induction s with
  | nil => rw [occursIn, List.isEmpty_iff, List.infix_nil]
  | cons c r ih => rw [occursIn, Bool.or_eq_true, List.isPrefixOf_iff_prefix, ih, List.infix_cons_iff]

theorem Value.contains_iff (v l : Value) :
    v.contains l = true ↔
      ∃ text part : String, v = .text text ∧ l = .text part ∧ part.toList <:+: text.toList := by
  constructor
  · intro h
    cases v with
    | text s =>
      cases l with
      | text p => exact ⟨s, p, rfl, rfl, (Text.occursIn_iff_infix _ _).mp h⟩
      | _ => cases h
    | _ => cases h
  · rintro ⟨text, part, rfl, rfl, h⟩
    exact (Text.occursIn_iff_infix _ _).mpr h

namespace Operator

/-- An operator holds between two values when its token does. -/
theorem relates_iff (op : Operator) (v l : Value) :
    op.relates v l = true ↔ TokenHolds op.token v l := by
  cases op with
  | contains => simp [relates, TokenHolds, token, Value.contains_iff]
  | _ => simp [relates, TokenHolds, token, Value.lt, Value.gt, Value.le, Value.ge]

/-- A text names the operator whose token is its lower case. -/
theorem ofToken?_eq_some {s : String} {op : Operator} :
    ofToken? s = some op ↔ op.token = Text.lowercase s := by
  constructor
  · intro h
    simpa using List.find?_some h
  · intro h
    rw [ofToken?, ← h]
    cases op <;> rfl

end Operator

/-! ## What a clause asks of a row -/

variable {τ : Type} {Row : τ → Type} [DecidableEq τ] {catalog : Catalog Row}

/-- The value at the end of the path stands to the literal as the clause says. -/
def Clause.HoldsOn (catalog : Catalog Row) {t : τ} (row : Row t) (c : Clause) : Prop :=
  ∃ k v l, Walk catalog row c.path.segments k v ∧ Value.ofLiteral? k c.literal = some l ∧
    TokenHolds (Text.lowercase c.operator) v l

namespace Clause.BoundTo

variable {t : τ} {c : Clause} {b : Comparison × Test Row}

/-- The path of a bound clause leads to one value in each row, of the kind of the field. -/
theorem walk_iff (made : catalog.Made) (h : c.BoundTo catalog (catalog t) b) (row : Row t)
    {k : Kind} {v : Value} :
    Walk catalog row c.path.segments k v ↔
      b.2.field.kind = k ∧ b.2.field.read ⟨t, row⟩ = some v :=
  RowFilter.walk_iff made (Catalog.resolve_eq_ok.mp h.field).1 row

theorem exists_read (made : catalog.Made) (h : c.BoundTo catalog (catalog t) b) (row : Row t) :
    ∃ v, b.2.field.read ⟨t, row⟩ = some v := by
  obtain ⟨v, hv⟩ := exists_walk_of_resolve made (Catalog.resolve_eq_ok.mp h.field).1 row
  exact ⟨v, ((h.walk_iff made row).mp hv).2⟩

/-- A row passes the test of a clause when the clause holds on it. -/
theorem holds_iff (made : catalog.Made) (h : c.BoundTo catalog (catalog t) b) (row : Row t) :
    b.2.holds ⟨t, row⟩ = true ↔ c.HoldsOn catalog row := by
  obtain ⟨v, hv⟩ := h.exists_read made row
  have htoken := Operator.ofToken?_eq_some.mp h.operator
  rw [Test.holds, hv]
  show b.2.operator.relates v b.2.literal = true ↔ _
  rw [Operator.relates_iff, htoken]
  constructor
  · intro hrel
    exact ⟨_, v, _, (h.walk_iff made row).mpr ⟨rfl, hv⟩, h.literal, hrel⟩
  · rintro ⟨k, v', l, hwalk, hl, hrel⟩
    obtain ⟨rfl, hv'⟩ := (h.walk_iff made row).mp hwalk
    rw [hv, Option.some.injEq] at hv'
    rw [h.literal, Option.some.injEq] at hl
    rwa [hv', hl]

end Clause.BoundTo

/-! ## What a predicate asks of a row -/

/-- **A predicate accepts a row when every group with alternatives has one that holds on it.** Each
clause has one value to compare, found by its path, and a literal of its kind; and where there are
no clauses every row is accepted. -/
theorem Predicate.accepts_iff_holdsOn (made : catalog.Made) {t : τ} {g : Grouping}
    {p : Predicate Row t} (compiled : compile catalog t g = .ok p) (row : Row t) :
    (∀ c ∈ g.clauses, ∃ k v l, Walk catalog row c.path.segments k v ∧
      Value.ofLiteral? k c.literal = some l ∧
      ∀ k' v', Walk catalog row c.path.segments k' v' → k' = k ∧ v' = v) ∧
    (p.accepts row = true ↔ ∀ group ∈ g.groups, group.alternatives ≠ [] →
      ∃ c ∈ group.alternatives, c.HoldsOn catalog row) ∧
    (g.clauses = [] → p.accepts row = true) := by
  obtain ⟨bound, hbound, -, hroot⟩ := compile_eq_ok.mp compiled
  have haccepts : p.accepts row = true ↔ ∀ group ∈ g.groups, group.alternatives ≠ [] →
      ∃ c ∈ group.alternatives, c.HoldsOn catalog row := by
    rw [accepts, hroot, Tree.eval_map, Tree.eval_ofGroups]
    refine (forall_mem_iff_of_forall₂ hbound fun group bs hbs => ?_).symm
    refine imp_congr (not_congr ?_) ?_
    · exact eq_nil_iff_of_forall₂ hbs
    · exact exists_mem_iff_of_forall₂ hbs fun c b hb => (hb.holds_iff made row).symm
  refine ⟨?_, haccepts, ?_⟩
  · intro c hc
    obtain ⟨b, -, hb⟩ := exists_of_mem_forall₂ hbound.clauses hc
    obtain ⟨v, hv⟩ := hb.exists_read made row
    refine ⟨_, v, _, (hb.walk_iff made row).mpr ⟨rfl, hv⟩, hb.literal, fun k' v' hwalk => ?_⟩
    obtain ⟨hk, hv'⟩ := (hb.walk_iff made row).mp hwalk
    rw [hv, Option.some.injEq] at hv'
    exact ⟨hk.symm, hv'.symm⟩
  · intro hnone
    refine haccepts.mpr fun group hgroup hne => ?_
    exact absurd (List.flatMap_eq_nil_iff.mp hnone group hgroup) hne

theorem Predicate.accepts_iff_holdsOn_neighbours :
    People.catalog.Made ∧
    ∃ p : Predicate People.Rows .person,
      compile People.catalog .person People.neighbours = .ok p ∧
      (p.accepts People.ann = true ↔
        ∀ group ∈ People.neighbours.groups, group.alternatives ≠ [] →
          ∃ c ∈ group.alternatives, c.HoldsOn People.catalog (t := .person) People.ann) := by
  obtain ⟨p, hp⟩ := People.neighbours_compiles
  exact ⟨People.catalog_made, p, hp, (accepts_iff_holdsOn People.catalog_made hp People.ann).2.1⟩

end RowFilter
