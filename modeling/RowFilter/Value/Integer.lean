import RowFilter.Text.Digits
import RowFilter.Value.Kind

/-!
# Integers of a fixed width

The value of an integer field is an integer within the range of its type. Nothing in this library
calculates with such values, so there is no arithmetic that could leave the range: a literal is
read as an integer of any size first, and accepted if it fits.
-/

set_option autoImplicit false

namespace RowFilter

/-- An integer within the range of a type. -/
structure BoundedInt (w : IntWidth) where
  val : Int
  inRange : w.min ≤ val ∧ val ≤ w.max
  deriving DecidableEq, Repr

namespace BoundedInt

variable {w : IntWidth}

/-- The integer as a value of the type, if it fits. -/
def ofInt? (w : IntWidth) (n : Int) : Option (BoundedInt w) :=
  if h : w.min ≤ n ∧ n ≤ w.max then some ⟨n, h⟩ else none

instance : Inhabited (BoundedInt w) := ⟨0, by cases w <;> decide⟩

/-- The number of a text of digits, one at least. -/
def readNat? (s : List Char) : Option Nat :=
  if Text.isDigits s then some (Text.digitsValue s) else none

/-- The integer that a literal of the type denotes, of any size. A minus sign belongs to the
signed types only, even in front of zero. -/
def readInt? (w : IntWidth) : List Char → Option Int
  | '+' :: r => (readNat? r).map fun n => (n : Int)
  | '-' :: r => if w.signed then (readNat? r).map fun n => -(n : Int) else none
  | s => (readNat? s).map fun n => (n : Int)

def read? (w : IntWidth) (s : List Char) : Option (BoundedInt w) := do
  ofInt? w (← readInt? w s)

end BoundedInt
end RowFilter
