/-!
# Kinds of fields

A field holds a truth value, an integer of a fixed width, a binary floating-point number, a date
with a time, a UUID or a text, or it holds a record with fields of its own. The order of the kinds
is part of the order of values, so `Kind.position` counts them.
-/

set_option autoImplicit false

namespace RowFilter

/-- The integer types, by sign and number of bits. -/
inductive IntWidth where
  | u8
  | i8
  | i16
  | i32
  | i64
  deriving DecidableEq, Repr, Inhabited

namespace IntWidth

def signed : IntWidth → Bool
  | u8 => false
  | i8 | i16 | i32 | i64 => true

def min : IntWidth → Int
  | u8 => 0
  | i8 => -128
  | i16 => -32768
  | i32 => -2147483648
  | i64 => -9223372036854775808

def max : IntWidth → Int
  | u8 => 255
  | i8 => 127
  | i16 => 32767
  | i32 => 2147483647
  | i64 => 9223372036854775807

end IntWidth

/-- The binary interchange formats of IEEE 754, in 32 and in 64 bits. -/
inductive FloatFormat where
  | single
  | double
  deriving DecidableEq, Repr, Inhabited

/-- The declared type of a field. -/
inductive Kind where
  | bool
  | integer (w : IntWidth)
  | float (f : FloatFormat)
  | dateTime
  | uuid
  | text
  | record
  deriving DecidableEq, Repr, Inhabited

namespace Kind

def all : List Kind :=
  [.bool, .integer .u8, .integer .i8, .integer .i16, .integer .i32, .integer .i64,
   .float .single, .float .double, .dateTime, .uuid, .text, .record]

/-- The place of the kind in the order of kinds. -/
def position : Kind → Nat
  | bool => 0
  | integer .u8 => 1
  | integer .i8 => 2
  | integer .i16 => 3
  | integer .i32 => 4
  | integer .i64 => 5
  | float .single => 6
  | float .double => 7
  | dateTime => 8
  | uuid => 9
  | text => 10
  | record => 11

/-- Does a field of this kind hold a value and not a record? -/
def isScalar (k : Kind) : Bool := k ≠ record

/-- The kind as messages write it. -/
def toString : Kind → String
  | bool => "bool"
  | integer .u8 => "u8"
  | integer .i8 => "i8"
  | integer .i16 => "i16"
  | integer .i32 => "i32"
  | integer .i64 => "i64"
  | float .single => "f32"
  | float .double => "f64"
  | dateTime => "datetime"
  | uuid => "uuid"
  | text => "string"
  | record => "record"

instance : ToString Kind := ⟨Kind.toString⟩

/-- The name of the kind in structured output. -/
def name : Kind → String
  | bool => "Bool"
  | integer .u8 => "U8"
  | integer .i8 => "I8"
  | integer .i16 => "I16"
  | integer .i32 => "I32"
  | integer .i64 => "I64"
  | float .single => "F32"
  | float .double => "F64"
  | dateTime => "DateTime"
  | uuid => "Uuid"
  | text => "Str"
  | record => "Record"

/-- The kind with this name, letter case included. -/
def ofName? (s : String) : Option Kind := all.find? fun k => k.name = s

theorem ofName?_name (k : Kind) : ofName? k.name = some k := by
  rcases k with _ | w | f | _ | _ | _ | _
  case integer => cases w <;> decide +kernel
  case float => cases f <;> decide +kernel
  all_goals decide +kernel

/-- No two kinds have one place in the order. -/
theorem position_inj {k l : Kind} (h : k.position = l.position) : k = l := by
  have all_position : ∀ k : Kind, all[k.position]? = some k := by
    intro k
    rcases k with _ | w | f | _ | _ | _ | _
    case integer => cases w <;> rfl
    case float => cases f <;> rfl
    all_goals rfl
  have hk := all_position k
  rw [h, all_position l] at hk
  exact (Option.some.inj hk).symm

end Kind
end RowFilter
