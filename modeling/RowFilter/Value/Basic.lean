import RowFilter.Value.Integer
import RowFilter.Value.Decimal
import RowFilter.Value.DateTime
import RowFilter.Value.Uuid

/-!
# Values

What a scalar field of a row holds, and what a literal becomes once it is read as a field's kind.
There is one constructor for each family of kinds, and no value is a record.
-/

set_option autoImplicit false

namespace RowFilter

/-- The value of a scalar field. -/
inductive Value where
  | bool (b : Bool)
  | integer {w : IntWidth} (n : BoundedInt w)
  | float {f : FloatFormat} (x : Floating f)
  | dateTime (t : DateTime)
  | uuid (u : Uuid)
  | text (s : String)
  deriving DecidableEq, Repr

namespace Value

instance : Inhabited Value := ⟨.bool false⟩

def kind : Value → Kind
  | bool _ => .bool
  | @integer w _ => .integer w
  | @float f _ => .float f
  | dateTime _ => .dateTime
  | uuid _ => .uuid
  | text _ => .text

/-- No value is a record. -/
theorem isScalar_kind (v : Value) : v.kind.isScalar = true := by
  cases v <;> rfl

/-- The text, if the value is one. -/
def text? : Value → Option String
  | text s => some s
  | _ => none

/-- Reads a truth value, in any ASCII letter case. -/
def readBool? (s : List Char) : Option Bool :=
  let word := Text.asciiLower s
  if word = ['t', 'r', 'u', 'e'] then some true
  else if word = ['f', 'a', 'l', 's', 'e'] then some false
  else none

/-- Reads a literal as a value of a kind. A text is itself, and no literal is a record. -/
def ofLiteral? (k : Kind) (literal : String) : Option Value :=
  match k with
  | .bool => (readBool? literal.toList).map .bool
  | .integer w => (BoundedInt.read? w literal.toList).map .integer
  | .float f => (Floating.read? f literal.toList).map .float
  | .dateTime => (DateTime.read? literal.toList).map .dateTime
  | .uuid => (Uuid.read? literal.toList).map .uuid
  | .text => some (.text literal)
  | .record => none

/-- A literal becomes a value of the very kind it is read as. -/
theorem kind_of_ofLiteral? {k : Kind} {literal : String} {v : Value}
    (h : ofLiteral? k literal = some v) : v.kind = k := by
  cases k with
  | text => cases h; rfl
  | record => exact absurd h (by simp [ofLiteral?])
  | bool | integer | float | dateTime | uuid =>
    obtain ⟨_, _, rfl⟩ := Option.map_eq_some_iff.1 h
    rfl

end Value
end RowFilter
