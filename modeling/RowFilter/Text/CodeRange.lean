/-!
# Code ranges — sets of characters as data

A character class of the Unicode standard is a set of code points. Every such set is written here
as the list of the ranges it covers, each by its first and its last code, and membership is one
function for all of them: a fact about a class is a fact about a closed list of numbers.
-/

set_option autoImplicit false

namespace RowFilter.Text

/-- Ranges of codes, both ends included. -/
abbrev CodeRanges := List (Nat × Nat)

/-- Is the character in one of the ranges? -/
def CodeRanges.has (rs : CodeRanges) (c : Char) : Bool :=
  rs.any fun (first, last) => first ≤ c.toNat && c.toNat ≤ last

end RowFilter.Text
