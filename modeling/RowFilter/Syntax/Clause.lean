import RowFilter.Text.Blank
import RowFilter.Text.Bytes
import RowFilter.Text.Split
import RowFilter.Syntax.Error
import RowFilter.Syntax.Operator
import RowFilter.Syntax.Path

/-!
# Clauses — `path operator literal`

A clause is three words, or two words and a quoted literal. Quoting is decided by the first and
the last single quote of the text alone: what stands between them is the literal, verbatim, quotes
included, and what stands after the last one is dropped. The operator is kept as written; whether
it names one of the six is settled when the filter meets a schema.

A clause is read from a `Piece`, a stretch of the filter that knows where it starts, because the
span of a clause counts from the start of the whole filter.
-/

set_option autoImplicit false

namespace RowFilter

/-- A stretch of a filter: the byte at which it starts, and its characters. -/
structure Piece where
  offset : Nat
  text : List Char
  deriving DecidableEq, Repr

/-- One comparison as written. -/
structure Clause where
  path : Path
  operator : String
  literal : String
  span : Span
  deriving DecidableEq, Repr, Inhabited

namespace Clause

/-- The operator that the clause names, if it names one. -/
def operator? (c : Clause) : Option Operator := Operator.ofToken? c.operator

/-- The character around a literal that is more than a word. -/
def quote : Char := '\''

/-- The path, operator and literal of a clause, not yet looked at. The text has no blanks around
it. -/
def parts (text : List Char) : Except ClauseDefect (List Char × List Char × List Char) :=
  match text.dropWhile (· ≠ quote) with
  | [] =>
    match Text.words text with
    | [path, operator, literal] => .ok (path, operator, literal)
    | ws => .error (.tokenCount 3 ws.length)
  | _ :: quoted =>
    match Text.beforeLast quote quoted with
    | none => .error .unclosedQuote
    | some literal =>
      match Text.words (text.takeWhile (· ≠ quote)) with
      | [path, operator] => .ok (path, operator, literal)
      | ws => .error (.tokenCount 2 ws.length)

/-- Where the text of a piece stands once the blanks around it are gone. -/
def spanOf (p : Piece) : Span :=
  ⟨p.offset + Text.byteLength (p.text.takeWhile Text.isBlank), Text.byteLength (Text.trim p.text)⟩

def read (p : Piece) : Except ParseError Clause :=
  let text := Text.trim p.text
  let span := spanOf p
  let malformed := fun reason => ParseError.malformedClause (String.ofList text) span reason
  match parts text with
  | .error reason => .error (malformed reason)
  | .ok (path, operator, literal) =>
    match Path.read? path with
    | none => .error (malformed .emptyPathSegment)
    | some path => .ok ⟨path, String.ofList operator, String.ofList literal, span⟩

end Clause
end RowFilter
