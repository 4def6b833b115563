import RowFilter.Predicate.Compile
import RowFilter.Report.Inspection

/-!
# Inspections of filters and schemas

The accessors of a field cannot be shown, so the inspection of a schema has the names and kinds of
its fields and nothing else.
-/

set_option autoImplicit false

namespace RowFilter

def Span.inspect (s : Span) : Inspection :=
  .record "Span" [("offset", .nat s.offset), ("len", .nat s.len)]

def Path.inspect (p : Path) : Inspection :=
  .record "PropertyPath" [("segments", .list (p.segments.map .text))]

def Clause.inspect (c : Clause) : Inspection :=
  .record "Clause" [("path", c.path.inspect), ("operator", .text c.operator),
    ("literal", .text c.literal), ("span", c.span.inspect)]

def OrGroup.inspect (g : OrGroup) : Inspection :=
  .record "OrGroup" [("alternatives", .list (g.alternatives.map Clause.inspect))]

def Grouping.inspect (g : Grouping) : Inspection :=
  .record "Grouping" [("groups", .list (g.groups.map OrGroup.inspect))]

def Expression.inspect : Expression → Inspection
  | .always => .word "True"
  | .leaf c =>
    .record "Comparison" [("path", c.path.inspect), ("operator", .word c.operator.name),
      ("literal", .text c.literal)]
  | .and l r => .record "And" [("left", inspect l), ("right", inspect r)]
  | .or l r => .record "Or" [("left", inspect l), ("right", inspect r)]

variable {τ : Type} {Row : τ → Type}

def Predicate.inspect {t : τ} (p : Predicate Row t) : Inspection :=
  .record "CompiledPredicate" [("expression", p.expression.inspect)]

def Field.inspect (f : Field Row) : Inspection :=
  .record "Field" [("name", .text f.name), ("kind", .word f.kind.name)]

def Schema.inspect (s : Schema Row) : Inspection :=
  .record "Schema" [("name", .text s.name), ("fields", .list (s.fields.map Field.inspect))]

def Descriptor.inspect (d : Descriptor Row) : Inspection :=
  .record "FieldDescriptor" [("path", d.path.inspect),
    ("steps", .list (d.route.fields.map Field.inspect))]

end RowFilter
