import RowFilter.Proofs.Predicate.Acceptance

/-!
# Tests compare values of one kind

An accessor takes rows of any type, and a test takes any value and any literal. So both have an
answer for cases that a filter should never meet: a row without a value at the path, a value of one
kind beside a literal of another, a part asked of something that is no text. With made schemas it
never meets them. A field declares the kind of the values that its getter yields, a record field
goes on in the schema of the rows that its getter yields, and a literal is read as the kind of the
field that it is compared with.

`Predicate.typed` says so test by test, and once more for a predicate as a whole: whatever its tests
answered in those cases, it would accept the same rows.
-/

set_option autoImplicit false

namespace RowFilter

variable {τ : Type} {Row : τ → Type}

theorem Value.exists_text {v : Value} (h : v.kind = .text) : ∃ s, v = .text s := by
  cases v with
  | text s => exact ⟨s, rfl⟩
  | bool | integer | float | dateTime | uuid => cases h

/-! ## Descriptors -/

/-- The descriptor has a value of its kind in every row of type `t`, and no value elsewhere. -/
structure Descriptor.TypedFor (t : τ) (d : Descriptor Row) : Prop where
  scalar : d.kind.isScalar = true
  read : ∀ row : Row t, ∃ v, d.read ⟨t, row⟩ = some v ∧ v.kind = d.kind
  foreign : ∀ r : SomeRow Row, r.type ≠ t → d.read r = none

variable [DecidableEq τ] {catalog : Catalog Row} {t : τ}

/-- The first field on the way looks at the type of the row. -/
theorem Route.read_eq_none (made : catalog.Made) {segments : List String} {route : Route Row}
    (h : resolve catalog (catalog t) segments = .ok route) {r : SomeRow Row} (hr : r.type ≠ t) :
    route.read r = none := by
  rcases resolve_eq_ok.mp h with ⟨segment, f, -, hfield, -, rfl⟩ |
    ⟨segment, later, f, rest, -, hfield, -, rfl⟩
  · cases (made t).declaredFor _ (Schema.mem_of_field?_eq_some hfield) with
    | scalar name get =>
      show (r.as? t).map _ = none
      rw [SomeRow.as?_eq_none hr, Option.map_none]
  · cases (made t).declaredFor _ (Schema.mem_of_field?_eq_some hfield) with
    | record name get =>
      show ((r.as? t).map _).bind _ = none
      rw [SomeRow.as?_eq_none hr, Option.map_none, Option.bind_none]

theorem Catalog.typedFor_of_resolve (made : catalog.Made) {path : Path} {d : Descriptor Row}
    (h : catalog.resolve (catalog t) path = .ok d) : d.TypedFor t := by
  have hroute := (resolve_eq_ok.mp h).1
  refine ⟨Route.isScalar_kind_of_resolve hroute, fun row => ?_, fun r hr => Route.read_eq_none made hroute hr⟩
  obtain ⟨v, hv⟩ := exists_walk_of_resolve made hroute row
  exact ⟨v, ((walk_iff made hroute row).mp hv).2, hv.kind_eq⟩

/-! ## Tests -/

namespace Test

/-- In every row of type `t` the test finds a value of the kind of its literal, and if it asks for a
part, it finds a text and has a text to look for. -/
structure TypedFor (t : τ) (test : Test Row) : Prop where
  read : ∀ row : Row t, ∃ v, test.field.read ⟨t, row⟩ = some v ∧ v.kind = test.literal.kind
  text : test.operator = .contains → ∀ row : Row t, ∃ text part,
    test.field.read ⟨t, row⟩ = some (.text text) ∧ test.literal = .text part

/-- The test with the answer `other` where there is no value, where value and literal are of
different kinds, and where it asks something that is no text for a part. -/
def holdsOr (other : Bool) (test : Test Row) (r : SomeRow Row) : Bool :=
  match test.field.read r with
  | none => other
  | some value =>
    if value.kind ≠ test.literal.kind ∨ test.operator = .contains ∧ value.kind ≠ .text then other
    else test.operator.relates value test.literal

omit [DecidableEq τ] in
theorem TypedFor.holdsOr_eq {test : Test Row} (h : test.TypedFor t) (other : Bool) (row : Row t) :
    test.holdsOr other ⟨t, row⟩ = test.holds ⟨t, row⟩ := by
  obtain ⟨v, hread, hkind⟩ := h.read row
  have hcomparable :
      ¬ (v.kind ≠ test.literal.kind ∨ test.operator = .contains ∧ v.kind ≠ .text) := by
    rintro (hdifferent | ⟨hcontains, hnotext⟩)
    · exact hdifferent hkind
    · obtain ⟨text, part, htext, -⟩ := h.text hcontains row
      rw [hread, Option.some.injEq] at htext
      rw [htext] at hnotext
      exact hnotext rfl
  simp only [holdsOr, holds, hread, if_neg hcomparable]

end Test

theorem Clause.BoundTo.typedFor (made : catalog.Made) {c : Clause} {b : Comparison × Test Row}
    (h : c.BoundTo catalog (catalog t) b) : b.2.TypedFor t := by
  have hliteral : b.2.literal.kind = b.2.field.kind := Value.kind_of_ofLiteral? h.literal
  have hfield := Catalog.typedFor_of_resolve made h.field
  constructor
  · intro row
    obtain ⟨v, hread, hkind⟩ := hfield.read row
    exact ⟨v, hread, hkind.trans hliteral.symm⟩
  · intro hcontains row
    have htext := h.text hcontains
    obtain ⟨v, hread, hkind⟩ := hfield.read row
    obtain ⟨text, rfl⟩ := Value.exists_text (hkind.trans htext)
    obtain ⟨part, hpart⟩ := Value.exists_text (hliteral.trans htext)
    exact ⟨text, part, hread, hpart⟩

/-! ## Predicates -/

namespace Predicate

theorem typedFor_of_compile (made : catalog.Made) {g : Grouping} {p : Predicate Row t}
    (compiled : compile catalog t g = .ok p) : ∀ test ∈ p.root.leaves, test.TypedFor t := by
  obtain ⟨bound, hbound, -, hroot⟩ := compile_eq_ok.mp compiled
  rw [hroot, Tree.leaves_map, Tree.leaves_ofGroups]
  intro test htest
  obtain ⟨b, hb, rfl⟩ := List.mem_map.mp htest
  obtain ⟨c, -, hc⟩ := exists_of_mem_forall₂ hbound.clauses.flip hb
  exact hc.typedFor made

/-- **Compiled filters are type sound.** A path that resolves leads to a value of the scalar kind
that its descriptor declares, in every row of the type it was resolved for and in no other row. A
literal is read as a value of the kind that was asked for. So every test of a predicate has a value
and a literal of one kind to compare, texts where it asks for a part, and its answers to anything
else are never heard. -/
theorem typed (made : catalog.Made) :
    (∀ (t : τ) (path : Path) (d : Descriptor Row), catalog.resolve (catalog t) path = .ok d →
      d.TypedFor t) ∧
    (∀ (k : Kind) (literal : String) (l : Value), Value.ofLiteral? k literal = some l →
      l.kind = k) ∧
    ∀ (t : τ) (g : Grouping) (p : Predicate Row t), compile catalog t g = .ok p →
      (∀ test ∈ p.root.leaves, test.TypedFor t) ∧
      ∀ (other : Bool) (row : Row t), p.root.eval (·.holdsOr other ⟨t, row⟩) = p.accepts row := by
  refine ⟨fun t path d h => Catalog.typedFor_of_resolve made h,
    fun k literal l h => Value.kind_of_ofLiteral? h, fun t g p compiled => ?_⟩
  have htests := typedFor_of_compile made compiled
  refine ⟨htests, fun other row => ?_⟩
  exact Tree.eval_congr fun test htest => (htests test htest).holdsOr_eq other row

/-- The path goes through a record of the row's own type. -/
theorem typed_neighbours :
    ∃ (d : Descriptor People.Rows) (p : Predicate People.Rows .person),
      People.catalog.resolve (People.catalog .person) ⟨["me", "Address", "NUMBER"]⟩ = .ok d ∧
      d.kind = .integer .u8 ∧
      (∃ v, d.read ⟨.person, People.ann⟩ = some v ∧ v.kind = d.kind) ∧
      d.read ⟨.address, People.ann.address⟩ = none ∧
      compile People.catalog .person People.neighbours = .ok p ∧
      p.root.eval (·.holdsOr true ⟨.person, People.ann⟩) = p.accepts People.ann := by
  obtain ⟨hfields, -, hpredicates⟩ := typed People.catalog_made
  obtain ⟨p, hp⟩ := People.neighbours_compiles
  have hkind : (People.catalog.resolve (People.catalog .person)
      ⟨["me", "Address", "NUMBER"]⟩).toOption.map Descriptor.kind = some (.integer .u8) := by
    decide +kernel
  cases hd : People.catalog.resolve (People.catalog .person) ⟨["me", "Address", "NUMBER"]⟩ with
  | error e =>
    rw [hd] at hkind
    cases hkind
  | ok d =>
    rw [hd] at hkind
    have htyped := hfields .person _ d hd
    exact ⟨d, p, rfl, Option.some.inj hkind, htyped.read People.ann,
      htyped.foreign _ (by decide), hp, (hpredicates .person _ p hp).2 true People.ann⟩

end Predicate
end RowFilter
