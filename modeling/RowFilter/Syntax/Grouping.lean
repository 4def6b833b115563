import RowFilter.Syntax.Clause

/-!
# Groupings — a conjunction of alternatives

A filter is groups joined by `_And`, and a group is alternatives joined by `_Or`; there are no
parentheses, so `_Or` always binds tighter. The separators are recognised wherever they stand, in
exactly this spelling, inside words and inside quotes too: the text is cut first and its pieces
are read afterwards.

Clauses are read in the order of the text and the reading stops at the first error. A limit on
their number is checked after each clause, so that the clause which exceeds it is still read, and
its defect, if it has one, is the error that is reported.
-/

set_option autoImplicit false

namespace RowFilter

/-- Clauses of which one must hold. -/
structure OrGroup where
  alternatives : List Clause
  deriving DecidableEq, Repr, Inhabited

/-- Groups that must all hold. Without any, every row is accepted. -/
structure Grouping where
  groups : List OrGroup
  deriving DecidableEq, Repr, Inhabited

/-- How a filter is read. -/
structure ParseOptions where
  /-- The largest number of clauses, if there is a limit. -/
  maxClauses : Option Nat := none
  deriving DecidableEq, Repr, Inhabited

namespace Piece

/-- Gives each piece its offset. The first starts at `offset`, and a separator of `gap` bytes
stands between each two. -/
def locate (gap : Nat) : Nat → List (List Char) → List Piece
  | _, [] => []
  | offset, text :: later =>
    ⟨offset, text⟩ :: locate gap (offset + Text.byteLength text + gap) later

/-- The pieces between the separators of a piece. -/
def split (sep : List Char) (p : Piece) : List Piece :=
  locate (Text.byteLength sep) p.offset (Text.splitAround sep p.text)

end Piece

namespace Grouping

def andSeparator : List Char := ['_', 'A', 'n', 'd']

def orSeparator : List Char := ['_', 'O', 'r']

/-- The grouping that accepts every row. -/
def matchAll : Grouping := ⟨[]⟩

def isMatchAll (g : Grouping) : Bool := g.groups.isEmpty

/-- The clauses in the order of the text. -/
def clauses (g : Grouping) : List Clause := g.groups.flatMap (·.alternatives)

/-- Refuses a number of clauses above the limit. -/
def checkLimit (limit : Option Nat) (count : Nat) : Except ParseError Unit :=
  match limit with
  | some max => if max < count then .error (.tooManyClauses count max) else .ok ()
  | none => .ok ()

/-- Reads the alternatives of a group, after `count` clauses. Returns the new count too. -/
def readAlternatives (limit : Option Nat) :
    Nat → List Piece → Except ParseError (List Clause × Nat)
  | count, [] => .ok ([], count)
  | count, p :: later => do
    let clause ← Clause.read p
    checkLimit limit (count + 1)
    let (clauses, total) ← readAlternatives limit (count + 1) later
    return (clause :: clauses, total)

/-- Reads the groups of a filter, after `count` clauses. Returns the new count too. -/
def readGroups (limit : Option Nat) :
    Nat → List (List Piece) → Except ParseError (List OrGroup × Nat)
  | count, [] => .ok ([], count)
  | count, pieces :: later => do
    let (clauses, subtotal) ← readAlternatives limit count pieces
    let (groups, total) ← readGroups limit subtotal later
    return (⟨clauses⟩ :: groups, total)

/-- The pieces of a filter, alternatives inside groups. -/
def pieces (src : List Char) : List (List Piece) :=
  (Piece.split andSeparator ⟨0, src⟩).map (Piece.split orSeparator)

/-- Reads a filter. The empty text accepts every row; a blank one is an error, and so would be a
filter without clauses. -/
def read (options : ParseOptions) (src : List Char) : Except ParseError Grouping :=
  if src.isEmpty then .ok matchAll
  else if Text.allBlank src then .error .emptyExpression
  else do
    let (groups, total) ← readGroups options.maxClauses 0 (pieces src)
    if total = 0 then .error .emptyExpression else return ⟨groups⟩

def parse (options : ParseOptions) (src : String) : Except ParseError Grouping :=
  read options src.toList

end Grouping
end RowFilter
