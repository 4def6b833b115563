import RowFilter.Syntax.Grouping

/-!
# The written form of a grouping

Every grouping has a text in which all literals are quoted and single blanks separate the parts.
Reading that text gives the grouping back, up to spans, exactly when no part of a clause can be
mistaken for another part or for a separator.
-/

set_option autoImplicit false

namespace RowFilter

/-- The clause with its literal in quotes. -/
def Clause.written (c : Clause) : String := s!"{c.path} {c.operator} '{c.literal}'"

/-- The alternatives joined by `_Or`. -/
def OrGroup.written (g : OrGroup) : String := " _Or ".intercalate (g.alternatives.map Clause.written)

/-- The groups joined by `_And`. -/
def Grouping.written (g : Grouping) : String := " _And ".intercalate (g.groups.map OrGroup.written)

end RowFilter
