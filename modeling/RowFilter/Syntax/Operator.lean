import RowFilter.Text.Lowercase

/-!
# Comparison operators

Six operators relate the value of a field to a literal. A filter names each by a token of two
letters, in any letter case.
-/

set_option autoImplicit false

namespace RowFilter

/-- How a field is compared with a literal. -/
inductive Operator where
  | equal
  | lessThan
  | greaterThan
  | lessOrEqual
  | greaterOrEqual
  /-- The literal is part of the field's text. -/
  | contains
  deriving DecidableEq, Repr, Inhabited

namespace Operator

/-- Every operator. -/
def all : List Operator :=
  [.equal, .lessThan, .greaterThan, .lessOrEqual, .greaterOrEqual, .contains]

/-- The text of the operator in a filter. -/
def token : Operator → String
  | equal => "eq"
  | lessThan => "lt"
  | greaterThan => "gt"
  | lessOrEqual => "le"
  | greaterOrEqual => "ge"
  | contains => "cn"

instance : ToString Operator := ⟨token⟩

/-- The operator with this token, ignoring letter case. -/
def ofToken? (s : String) : Option Operator :=
  all.find? fun op => op.token = Text.lowercase s

/-- The name of the operator in structured output. -/
def name : Operator → String
  | equal => "Equal"
  | lessThan => "LessThan"
  | greaterThan => "GreaterThan"
  | lessOrEqual => "LessOrEqual"
  | greaterOrEqual => "GreaterOrEqual"
  | contains => "Contains"

/-- The operator with this name, letter case included. -/
def ofName? (s : String) : Option Operator := all.find? fun op => op.name = s

theorem ofToken?_token (op : Operator) : ofToken? op.token = some op := by
  cases op <;> decide +kernel

theorem ofName?_name (op : Operator) : ofName? op.name = some op := by
  cases op <;> decide +kernel

end Operator
end RowFilter
