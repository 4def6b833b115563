import RowFilter.Value.Basic

/-!
# Rows whose type is known at run time

The types of rows form a family `Row : τ → Type`: an element of `τ` is the name of a row type, and
the family says what its rows are. Names, unlike types, can be compared, so a row of unknown type
can carry the name of its type and be recovered at any type by checking it.

Accessors work on such rows because the rows of one path have different types, and because a filter
may be asked about a row that is none of its own. What a wrong row gives is then a matter of
definition, "no value", and not of trust.
-/

set_option autoImplicit false

namespace RowFilter

/-- A row with the name of its type. -/
structure SomeRow {τ : Type} (Row : τ → Type) where
  type : τ
  row : Row type

namespace SomeRow

variable {τ : Type} {Row : τ → Type}

/-- The row as a row of type `t`, if it is one. -/
def as? [DecidableEq τ] (t : τ) (r : SomeRow Row) : Option (Row t) :=
  if h : r.type = t then some (h ▸ r.row) else none

@[simp]
theorem as?_self [DecidableEq τ] (t : τ) (row : Row t) : as? t ⟨t, row⟩ = some row := by
  simp [as?]

theorem as?_eq_none [DecidableEq τ] {t : τ} {r : SomeRow Row} (h : r.type ≠ t) :
    r.as? t = none := by
  simp [as?, h]

end SomeRow

/-- A type that a scalar field can have. The kind of its values is fixed by the type.

That all values are of this kind is a law here. The interface of a field type does not state it; it is
true of the eleven types that have one, and these are the instances below: truth values, integers of
five widths, floats of two formats, dates with a time, identifiers and texts. -/
class Cell (α : Type) where
  kind : Kind
  toValue : α → Value
  kind_toValue : ∀ a, (toValue a).kind = kind

instance : Cell Bool := ⟨.bool, .bool, fun _ => rfl⟩

instance {w : IntWidth} : Cell (BoundedInt w) := ⟨.integer w, .integer, fun _ => rfl⟩

instance {f : FloatFormat} : Cell (Floating f) := ⟨.float f, .float, fun _ => rfl⟩

instance : Cell DateTime := ⟨.dateTime, .dateTime, fun _ => rfl⟩

instance : Cell Uuid := ⟨.uuid, .uuid, fun _ => rfl⟩

instance : Cell String := ⟨.text, .text, fun _ => rfl⟩

end RowFilter
