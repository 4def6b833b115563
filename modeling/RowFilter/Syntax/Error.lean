/-!
# What can be wrong with the text of a filter

Each error is a cause with the data its message needs. A malformed clause carries its text and
its place in the filter, so that it can be pointed at.
-/

set_option autoImplicit false

namespace RowFilter

/-- A stretch of the filter, in bytes. -/
structure Span where
  offset : Nat
  len : Nat
  deriving DecidableEq, Repr, Inhabited

namespace Span

/-- The first byte after the stretch. -/
def stop (s : Span) : Nat := s.offset + s.len

end Span

/-- Why a text is no clause. -/
inductive ClauseDefect where
  /-- The number of words is not the number of parts still expected. -/
  | tokenCount (expected found : Nat)
  /-- There is a single quote. -/
  | unclosedQuote
  /-- The path has an empty or blank segment. -/
  | emptyPathSegment
  deriving DecidableEq, Repr, Inhabited

namespace ClauseDefect

def message : ClauseDefect → String
  | tokenCount expected found => s!"expected {expected} tokens but found {found}"
  | unclosedQuote => "quoted value is not closed"
  | emptyPathSegment => "property path has an empty segment"

end ClauseDefect

/-- Why a text is no filter. -/
inductive ParseError where
  /-- The clause, without the blanks around it, its place and its defect. -/
  | malformedClause (clause : String) (span : Span) (reason : ClauseDefect)
  /-- The filter is blank and not empty. -/
  | emptyExpression
  /-- The number of clauses read so far exceeds the limit. -/
  | tooManyClauses (count max : Nat)
  deriving DecidableEq, Repr, Inhabited

namespace ParseError

def message : ParseError → String
  | malformedClause clause _ reason => s!"malformed clause `{clause}`: {reason.message}"
  | emptyExpression => "filter does not contain any clause"
  | tooManyClauses count max => s!"filter contains {count} clauses but at most {max} are allowed"

end ParseError
end RowFilter
