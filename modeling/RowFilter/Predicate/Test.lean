import RowFilter.Syntax.Operator
import RowFilter.Row.Route
import RowFilter.Value.Order

/-!
# Tests

A test is a comparison made ready for rows: its path is resolved and its literal read as a value of
the field's kind. A row without a value at the path fails every test.
-/

set_option autoImplicit false

namespace RowFilter

/-- Does the operator hold between the value of a field and a literal? -/
def Operator.relates : Operator → Value → Value → Bool
  | equal => Value.equals
  | lessThan => Value.lt
  | greaterThan => Value.gt
  | lessOrEqual => Value.le
  | greaterOrEqual => Value.ge
  | contains => Value.contains

variable {τ : Type}

/-- A comparison made ready for rows. -/
structure Test (Row : τ → Type) where
  field : Descriptor Row
  operator : Operator
  literal : Value

namespace Test

variable {Row : τ → Type}

def holds (t : Test Row) (r : SomeRow Row) : Bool :=
  match t.field.read r with
  | some value => t.operator.relates value t.literal
  | none => false

end Test
end RowFilter
