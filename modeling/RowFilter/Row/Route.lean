import RowFilter.Row.Schema
import RowFilter.Syntax.Path

/-!
# Routes — where a path leads

A path resolves to a *route*: record fields to go through, and a scalar field at the end. That a
route ends in a scalar field is its type, so reading along a route needs no case for a path that
stops at a record. That the kind which the last field declares is no record's is checked when a
path resolves.
-/

set_option autoImplicit false

namespace RowFilter

variable {τ : Type}

/-- The way from a row to one of its values. -/
inductive Route (Row : τ → Type) where
  /-- The value is in the row itself. -/
  | here (f : ScalarField Row)
  /-- The value is in a record of the row. -/
  | into (f : RecordField Row) (rest : Route Row)

namespace Route

variable {Row : τ → Type}

def kind : Route Row → Kind
  | here f => f.kind
  | into _ rest => rest.kind

/-- Reads the value at the end. A row of the wrong type has none. -/
def read : Route Row → SomeRow Row → Option Value
  | here f, r => f.get r
  | into f rest, r => (f.project r).bind rest.read

/-- The fields on the way. -/
def fields : Route Row → List (Field Row)
  | here f => [.scalar f]
  | into f rest => .record f :: rest.fields

/-- Follows the segments from a schema. If that fails, the error is the segment to blame: one that
names no field, one that follows a scalar field, or the last one if it names a record. -/
def resolve (catalog : Catalog Row) (s : Schema Row) : List String → Except String (Route Row)
  | [] => .error ""
  | [segment] =>
    match s.field? segment with
    | some (.scalar f) => if f.kind.isScalar then .ok (.here f) else .error segment
    | _ => .error segment
  | segment :: next :: later =>
    match s.field? segment with
    | some (.record f) =>
      (resolve catalog (catalog f.nested) (next :: later)).map (.into f)
    | some (.scalar _) => .error next
    | none => .error segment

end Route

/-- A path with the route it resolves to. -/
structure Descriptor (Row : τ → Type) where
  path : Path
  route : Route Row

namespace Descriptor

variable {Row : τ → Type}

def kind (d : Descriptor Row) : Kind := d.route.kind

def read (d : Descriptor Row) (r : SomeRow Row) : Option Value := d.route.read r

end Descriptor

namespace Catalog

variable {Row : τ → Type}

def resolve (catalog : Catalog Row) (s : Schema Row) (p : Path) :
    Except CompileError (Descriptor Row) :=
  match Route.resolve catalog s p.segments with
  | .ok route => .ok ⟨p, route⟩
  | .error segment => .error (.unknownField p.toString segment)

/-- Resolves a path given as text. A text that is no path has no segment to blame. -/
def resolveText (catalog : Catalog Row) (s : Schema Row) (text : String) :
    Except CompileError (Descriptor Row) :=
  match Path.ofString? text with
  | some p => resolve catalog s p
  | none => .error (.unknownField text "")

end Catalog
end RowFilter
