import RowFilter.Predicate.Expression
import RowFilter.Predicate.Test
import RowFilter.Syntax.Grouping

/-!
# Predicates — filters bound to a row type

Compiling turns every clause of a grouping into a comparison for a reader and a test for rows, and
joins each of the two lists into a tree of its own: alternatives with "or", groups with "and", both
from the left. A group without alternatives says nothing. The first clause that does not fit the
schema decides the error, and of its faults the first in this order: the path, the literal, the
operator, the operator's demand for a text.
-/

set_option autoImplicit false

namespace RowFilter

variable {τ : Type}

/-- A filter for rows of type `t`. -/
structure Predicate (Row : τ → Type) (t : τ) where
  /-- What the predicate says. -/
  expression : Expression
  /-- What it asks of a row. -/
  root : Tree (Test Row)

namespace Predicate

variable {Row : τ → Type} {t : τ}

def accepts (p : Predicate Row t) (row : Row t) : Bool := p.root.eval fun test => test.holds ⟨t, row⟩

/-- The comparison that a clause says, and the test for it. -/
def compileClause (catalog : Catalog Row) (s : Schema Row) (c : Clause) :
    Except CompileError (Comparison × Test Row) := do
  let field ← catalog.resolve s c.path
  let path := c.path.toString
  match Value.ofLiteral? field.kind c.literal with
  | none => .error (.valueCoercionFailed path c.literal field.kind)
  | some literal =>
    match c.operator? with
    | none => .error (.unknownOperator c.operator)
    | some operator =>
      if operator = .contains ∧ field.kind ≠ .text then
        .error (.containsRequiresString path field.kind)
      else .ok (⟨c.path, operator, c.literal⟩, ⟨field, operator, literal⟩)

/-- The predicate for a grouping. -/
def compile (catalog : Catalog Row) (t : τ) (g : Grouping) :
    Except CompileError (Predicate Row t) := do
  let groups ← g.groups.mapM fun group =>
    group.alternatives.mapM (compileClause catalog (catalog t))
  return ⟨Tree.ofGroups (groups.map (·.map Prod.fst)), Tree.ofGroups (groups.map (·.map Prod.snd))⟩

end Predicate
end RowFilter
