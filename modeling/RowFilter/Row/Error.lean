import RowFilter.Value.Kind

/-!
# What can be wrong with a filter that can be read

A filter is read without knowing its rows. The errors here arise when its clauses meet a schema:
the path leads nowhere, the literal is none of the field's kind, the operator is unknown, or it
asks for a part of something that is no text.
-/

set_option autoImplicit false

namespace RowFilter

/-- Why a clause does not fit a schema. -/
inductive CompileError where
  /-- This segment of the path names no scalar field where one is needed. -/
  | unknownField (path segment : String)
  | valueCoercionFailed (path literal : String) (kind : Kind)
  | containsRequiresString (path : String) (kind : Kind)
  | unknownOperator (operator : String)
  deriving DecidableEq, Repr, Inhabited

namespace CompileError

def message : CompileError → String
  | unknownField path segment => s!"unknown field `{segment}` in `{path}`"
  | valueCoercionFailed path literal kind =>
    s!"value `{literal}` can not be converted to {kind} for `{path}`"
  | containsRequiresString path kind =>
    s!"only string fields support `cn` but `{path}` is {kind}"
  | unknownOperator operator => s!"unknown operator `{operator}`"

end CompileError

/-- Why the fields of a schema do not fit together. -/
inductive SchemaError where
  /-- The name of the field is, up to letter case, the name of an earlier one. -/
  | duplicateField (schema field : String)
  deriving DecidableEq, Repr, Inhabited

namespace SchemaError

def message : SchemaError → String
  | duplicateField schema field => s!"field `{field}` is declared twice in schema `{schema}`"

end SchemaError
end RowFilter
