import RowFilter.Predicate.Compile

/-!
# The meaning of an expression

An interpreter for expressions that looks at no compiled test: at every comparison it resolves the
path, reads the row and the literal, and asks what the operator means, which is spelled out here once
more (`Operator.means`). It is what a reader of the published expression expects the predicate to do,
and slower by all the work that compiling does once.
-/

set_option autoImplicit false

namespace RowFilter

variable {τ : Type} {Row : τ → Type}

/-- Does the value of a field stand to a literal as the operator says? -/
def Operator.means : Operator → Value → Value → Bool
  | equal, value, literal => value.equals literal
  | lessThan, value, literal => value.compare? literal = some .lt
  | greaterThan, value, literal => value.compare? literal = some .gt
  | lessOrEqual, value, literal =>
    value.compare? literal = some .lt ∨ value.compare? literal = some .eq
  | greaterOrEqual, value, literal =>
    value.compare? literal = some .gt ∨ value.compare? literal = some .eq
  | contains, .text s, .text part =>
    (List.range (s.toList.length + 1)).any fun place => part.toList.isPrefixOf (s.toList.drop place)
  | contains, _, _ => false

def Comparison.meaning (catalog : Catalog Row) (t : τ) (row : Row t) (c : Comparison) : Bool :=
  match catalog.resolve (catalog t) c.path with
  | .error _ => false
  | .ok field =>
    match field.read ⟨t, row⟩, Value.ofLiteral? field.kind c.literal with
    | some value, some literal => c.operator.means value literal
    | _, _ => false

def Expression.meaning (catalog : Catalog Row) (t : τ) (row : Row t) : Expression → Bool
  | .always => true
  | .leaf c => c.meaning catalog t row
  | .and l r => meaning catalog t row l && meaning catalog t row r
  | .or l r => meaning catalog t row l || meaning catalog t row r

end RowFilter
