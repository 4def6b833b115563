import RowFilter.Predicate.Compile
import RowFilter.Proofs.Json.PredicateForms
import RowFilter.Proofs.Row.People
import RowFilter.Proofs.Syntax.Coverage
import RowFilter.Proofs.Syntax.WellFormed

/-!
# Filters on their way through JSON

A grouping that has been read from a text is storable: its paths have been checked, and its spans
lie in the text, whose length the machine can count. So it may be sent as JSON and be compiled
where it arrives, with the same outcome, and what arrives there in any other form still has no
path that could not have been read from a text.
-/

set_option autoImplicit false

namespace RowFilter

open Text (byteLength)
open JsonForm (IsCount)

theorem Path.Plain.valid {p : Path} (h : p.Plain) : p.Valid :=
  (read?_eq_some.mp (plain_iff.mp h).2).1

theorem Grouping.storable_of_parse {options : ParseOptions} {src : String} {g : Grouping}
    (hlength : IsCount (byteLength src.toList)) (h : parse options src = .ok g) : g.Storable := by
  rw [storable_iff]
  intro c hc
  have hne := ne_empty_of_mem_clauses h hc
  have hstop : c.span.offset + c.span.len ≤ byteLength src.toList :=
    ((covers_of_readFrom (readFrom_of_parse hne h)).ascending.2 c hc).2
  refine ⟨(clause_wellFormed_of_parse h hc).path.valid, ?_, ?_⟩
  · exact lt_of_le_of_lt (Nat.le_of_add_right_le hstop) hlength
  · exact lt_of_le_of_lt (Nat.le_of_add_left_le hstop) hlength

theorem Grouping.paths_valid_of_storable {g : Grouping} (h : g.Storable) :
    ∀ c ∈ g.clauses, c.path.Valid :=
  fun c hc => (storable_iff.mp h c hc).1

namespace JsonForm

/-- **Nothing is lost in JSON, and no blank segment comes out of it.** The values of each type that
JSON can hold are read back as they were written; in a grouping and in an expression that have been
read from JSON, in whatever form, every path is valid; and a grouping that has been read from a text
is compiled after a round trip as it is without one, for every row type. -/
theorem faithful :
    (Lawful Grouping.Storable ∧ Lawful OrGroup.Storable ∧ Lawful Clause.Storable ∧
      Lawful Span.Storable ∧ Lawful Path.Valid ∧ Lawful (fun _ : Operator => True) ∧
      Lawful Expression.Storable ∧ Lawful ClauseDefect.Storable ∧ Lawful ParseError.Storable ∧
      Lawful (fun _ : CompileError => True) ∧ Lawful (fun _ : Kind => True) ∧
      Lawful ParseOptions.Storable) ∧
    (∀ (x : Json) (g : Grouping), decode? x = some g → ∀ c ∈ g.clauses, c.path.Valid) ∧
    (∀ (x : Json) (e : Expression), decode? x = some e → ∀ c ∈ e.leaves, c.path.Valid) ∧
    ∀ (τ : Type) (Row : τ → Type) (catalog : Catalog Row) (t : τ) (options : ParseOptions)
      (src : String) (g : Grouping), IsCount (byteLength src.toList) →
      Grouping.parse options src = .ok g →
      ∃ h, decode? (encode g) = some h ∧
        Predicate.compile catalog t h = Predicate.compile catalog t g := by
  refine ⟨⟨Grouping.lawful, OrGroup.lawful, Clause.lawful, Span.lawful, Path.lawful,
    Operator.lawful, Expression.lawful, ClauseDefect.lawful, ParseError.lawful,
    CompileError.lawful, Kind.lawful, ParseOptions.lawful⟩, ?_, ?_, ?_⟩
  · exact fun x g h => Grouping.paths_valid_of_storable (Grouping.lawful.of_decode x g h)
  · exact Expression.lawful.of_decode
  · intro τ Row catalog t options src g hlength hparse
    have hstorable := Grouping.storable_of_parse hlength hparse
    exact ⟨g, Grouping.lawful.decode_encode g hstorable, rfl⟩

/-- The grouping of `Me.Age GT 40`. -/
def elders : Grouping := ⟨[⟨[⟨⟨["Me", "Age"]⟩, "GT", "40", ⟨0, 12⟩⟩]⟩]⟩

/-- The same in arrays, after a member that no structure has. -/
def eldersInArrays : Json :=
  .obj [("comment", .null), ("groups", .arr [.arr [.arr [.arr
    [.arr [.str "Me", .str "Age"], .str "GT", .str "40", .arr [.int 0, .int 12]]]]])]

/-- An expression with its branches in the other order. -/
def namesOrAll : Json :=
  .obj [("Or", .obj [("right", .obj [("True", .null)]), ("left", .obj [("Comparison",
    .obj [("path", .arr [.str "Name"]), ("operator", .str "Contains"), ("literal", .str "")])])])]

theorem faithful_elders :
    elders.Storable ∧ decode? (encode elders) = some elders ∧
    decode? eldersInArrays = some elders ∧ (∀ c ∈ elders.clauses, c.path.Valid) ∧
    (∃ e : Expression, decode? namesOrAll = some e ∧ ∀ c ∈ e.leaves, c.path.Valid) ∧
    IsCount (byteLength "Me.Age GT 40".toList) ∧
    Grouping.parse {} "Me.Age GT 40" = .ok elders ∧
    ∃ h, decode? (encode elders) = some h ∧ Predicate.compile People.catalog .person h =
      Predicate.compile People.catalog .person elders := by
  obtain ⟨⟨hgrouping, -⟩, hgroupings, hexpressions, hcompile⟩ := faithful
  have hlength : IsCount (byteLength "Me.Age GT 40".toList) := by decide +kernel
  have hparse : Grouping.parse {} "Me.Age GT 40" = .ok elders := by decide +kernel
  have hstorable : elders.Storable := Grouping.storable_of_parse hlength hparse
  have harrays : decode? eldersInArrays = some elders := by decide +kernel
  have hnames : decode? namesOrAll =
      some (Tree.or (.leaf ⟨⟨["Name"]⟩, .contains, ""⟩) .always : Expression) := by
    decide +kernel
  exact ⟨hstorable, hgrouping.decode_encode elders hstorable, harrays, hgroupings _ _ harrays,
    ⟨_, hnames, hexpressions _ _ hnames⟩, hlength, hparse,
    hcompile _ _ People.catalog .person {} _ elders hlength hparse⟩

end JsonForm
end RowFilter
