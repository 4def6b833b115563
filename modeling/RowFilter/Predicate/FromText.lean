import RowFilter.Predicate.Compile

/-!
# Predicates from the text of a filter

The whole way from a text to a predicate on rows. Whoever sent the text learns only that it cannot
be compiled; the cause stays with the error.
-/

set_option autoImplicit false

namespace RowFilter

/-- Why a text gives no predicate. -/
inductive FilterError where
  | parse (cause : ParseError)
  | compile (cause : CompileError)
  deriving DecidableEq, Repr, Inhabited

namespace FilterError

/-- The one message for all causes. -/
def message (_ : FilterError) : String := "cannot compile your request"

def causeMessage : FilterError → String
  | parse cause => cause.message
  | compile cause => cause.message

end FilterError

namespace Predicate

variable {τ : Type} {Row : τ → Type}

/-- The predicate that a text says. -/
def ofText (catalog : Catalog Row) (t : τ) (options : ParseOptions) (src : String) :
    Except FilterError (Predicate Row t) :=
  match Grouping.parse options src with
  | .error cause => .error (.parse cause)
  | .ok g => (compile catalog t g).mapError .compile

/-- The predicate of a filter that may be missing. A missing filter accepts every row. -/
def ofOptional (catalog : Catalog Row) (t : τ) (options : ParseOptions) (src : Option String) :
    Except FilterError (Predicate Row t) :=
  ofText catalog t options (src.getD "")

end Predicate
end RowFilter
