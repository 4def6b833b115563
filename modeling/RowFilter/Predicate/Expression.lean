import RowFilter.Predicate.Tree
import RowFilter.Syntax.Operator
import RowFilter.Syntax.Path

/-!
# Expressions

What a filter says, as a tree that can be shown: each leaf compares a path with a literal, and both
are kept as the filter wrote them. In the text of an expression every connective has parentheses
and every literal has quotes, with nothing escaped.
-/

set_option autoImplicit false

namespace RowFilter

/-- A comparison with a known operator. -/
structure Comparison where
  path : Path
  operator : Operator
  literal : String
  deriving DecidableEq, Repr, Inhabited

namespace Comparison

def toString (c : Comparison) : String := s!"{c.path} {c.operator} '{c.literal}'"

end Comparison

/-- What a filter says. -/
abbrev Expression := Tree Comparison

namespace Expression

def toString : Expression → String
  | .always => "true"
  | .leaf c => c.toString
  | .and l r => s!"({toString l} && {toString r})"
  | .or l r => s!"({toString l} || {toString r})"

end Expression
end RowFilter
