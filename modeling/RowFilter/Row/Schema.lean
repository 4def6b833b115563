import RowFilter.Row.Basic
import RowFilter.Row.Error
import RowFilter.Text.Lowercase

/-!
# Schemas

A schema lists the fields of a row type under the names that filters use. A scalar field says how
to read a value, a record field how to get at a row of another type. The other schema is given by
the name of its type and not by itself, so a record may contain its own type; a `Catalog` has the
schema for every name.

Names are looked up without regard to letter case, through an index from the lower case of each
name to the place of its field. A builder fills the index field by field, and refuses the first
field whose key is in it already.
-/

set_option autoImplicit false

namespace RowFilter

variable {τ : Type}

/-- A field that holds a value. -/
structure ScalarField (Row : τ → Type) where
  name : String
  kind : Kind
  /-- The value of the field in a row, if the row has the right type. -/
  get : SomeRow Row → Option Value

/-- A field that holds a row of another type. -/
structure RecordField (Row : τ → Type) where
  name : String
  /-- The type of the inner row. -/
  nested : τ
  /-- The inner row, if the outer one has the right type. -/
  project : SomeRow Row → Option (SomeRow Row)

/-- A field of a row type. -/
inductive Field (Row : τ → Type) where
  | scalar (f : ScalarField Row)
  | record (f : RecordField Row)

namespace Field

variable {Row : τ → Type}

def name : Field Row → String
  | scalar f => f.name
  | record f => f.name

def kind : Field Row → Kind
  | scalar f => f.kind
  | record _ => .record

def nested? : Field Row → Option τ
  | scalar _ => none
  | record f => some f.nested

/-- The name by which the field is found. -/
def key (f : Field Row) : String := Text.lowercase f.name

end Field

/-- The fields of a row type, in the order of their declaration. -/
structure Schema (Row : τ → Type) where
  name : String
  fields : List (Field Row)

/-- The schema of every row type. -/
abbrev Catalog (Row : τ → Type) := τ → Schema Row

namespace Schema

variable {Row : τ → Type}

/-- Enters fields into an index, the first of them at this place. Fails at the first one whose key
is in the index already. -/
def enter (index : List (String × Nat)) (place : Nat) :
    List (Field Row) → Except (Field Row) (List (String × Nat))
  | [] => .ok index
  | f :: later =>
    match index.lookup f.key with
    | some _ => .error f
    | none => enter ((f.key, place) :: index) (place + 1) later

/-- The place of each key among the fields. A schema that no builder accepts has no index. -/
def index (s : Schema Row) : List (String × Nat) := (enter [] 0 s.fields).toOption.getD []

/-- The place of the field with this name, ignoring letter case. -/
def place? (s : Schema Row) (name : String) : Option Nat := s.index.lookup (Text.lowercase name)

/-- The field with this name, ignoring letter case. -/
def field? (s : Schema Row) (name : String) : Option (Field Row) :=
  (s.place? name).bind fun place => s.fields[place]?

/-- Declares the fields of row type `t`, one after the other. -/
structure Builder (Row : τ → Type) (t : τ) where
  name : String
  fields : List (Field Row)

namespace Builder

variable {t : τ}

def empty (t : τ) (name : String) : Builder Row t := ⟨name, []⟩

def push (b : Builder Row t) (f : Field Row) : Builder Row t := { b with fields := b.fields ++ [f] }

/-- Declares a scalar field. Its kind is the kind of the type that is read. -/
def field [DecidableEq τ] {α : Type} [Cell α] (b : Builder Row t) (name : String)
    (get : Row t → α) : Builder Row t :=
  b.push (.scalar ⟨name, Cell.kind α, fun r => (r.as? t).map fun row => Cell.toValue (get row)⟩)

def record [DecidableEq τ] (b : Builder Row t) (name : String) (u : τ) (get : Row t → Row u) :
    Builder Row t :=
  b.push (.record ⟨name, u, fun r => (r.as? t).map fun row => ⟨u, get row⟩⟩)

/-- The schema with the fields declared, unless two names differ in letter case only. -/
def build (b : Builder Row t) : Except SchemaError (Schema Row) :=
  match enter [] 0 b.fields with
  | .error f => .error (.duplicateField b.name f.name)
  | .ok _ => .ok ⟨b.name, b.fields⟩

end Builder
end Schema
end RowFilter
