import RowFilter.Json.Pretty
import RowFilter.Json.SyntaxForms
import RowFilter.Report.Inspect
import RowFilter.Report.Style

/-!
# Checking a filter on the command line

A check reads a filter without binding it to any row type. It says that the filter is valid, after
what was asked for in between: the grouping as an inspection, the grouping as JSON. If the filter
cannot be read, the check fails, writes to the error stream only, and puts carets under a malformed
clause. Spans count bytes and carets count characters, so the clause is found by cutting the text.
-/

set_option autoImplicit false

namespace RowFilter

/-- What a check is asked to do. -/
structure CheckOptions where
  /-- Show the grouping as JSON. -/
  json : Bool := false
  /-- Show the grouping as an inspection. -/
  debug : Bool := false
  maxClauses : Option Nat := none
  /-- Use terminal styles. -/
  color : Bool := false
  deriving DecidableEq, Repr, Inhabited

/-- What a program leaves behind. -/
structure Outcome where
  exitCode : Nat
  stdout : String
  stderr : String
  deriving DecidableEq, Repr, Inhabited

namespace Check

def repeated (n : Nat) (c : Char) : String := String.ofList (List.replicate n c)

def errorLine (color : Bool) (message : String) : String :=
  Style.boldRed.apply color "error: " ++ Style.bold.apply color message ++ "\n"

/-- What stands in front of the filter when it is shown. -/
def filterLabel : String := "filter:  "

/-- The number of characters before a span and the number inside it. A span that does not fit the
text is taken to be at its start, and one that ends wrongly to be empty. -/
def columns (src : List Char) (span : Span) : Nat × Nat :=
  match Text.cutAt span.offset src with
  | none => (0, 0)
  | some (before, back) =>
    match Text.cutAt span.len back with
    | none => (before.length, 0)
    | some (inside, _) => (before.length, inside.length)

/-- The filter with carets under a span, one caret at least. -/
def pointAt (color : Bool) (src : String) (span : Span) : String :=
  let (column, width) := columns src.toList span
  Style.boldDimmed.apply color filterLabel ++ src ++ "\n" ++
    repeated (filterLabel.length + column) ' ' ++
    Style.yellow.apply color (repeated (max width 1) '^') ++ "\n"

def errorReport (color : Bool) (src : String) (error : ParseError) : String :=
  match error with
  | .malformedClause _ span _ => pointAt color src span ++ errorLine color error.message
  | _ => errorLine color error.message

/-- The inspection of a grouping, with a note if it has no groups. -/
def inspectionReport (color : Bool) (g : Grouping) : String :=
  Style.bold.apply color "Grouping:" ++ "\n" ++ g.inspect.block ++ "\n\n" ++
    if g.isMatchAll then Style.dimmed.apply color "Empty filter matches every row" ++ "\n\n" else ""

def successReport (options : CheckOptions) (g : Grouping) : String :=
  (if options.debug then inspectionReport options.color g else "") ++
    (if options.json then (encode g).pretty ++ "\n" else "") ++
    Style.boldGreen.apply options.color "Filter is valid" ++ "\n"

def run (options : CheckOptions) (src : String) : Outcome :=
  match Grouping.parse ⟨options.maxClauses⟩ src with
  | .error error => ⟨1, "", errorReport options.color src error⟩
  | .ok g => ⟨0, successReport options g, ""⟩

end Check
end RowFilter
