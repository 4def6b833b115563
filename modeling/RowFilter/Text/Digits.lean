/-!
# Digits

Numbers are written with ASCII digits only. The functions here read runs of them, in base ten and
in base sixteen, for every module that reads numbers out of text.
-/

set_option autoImplicit false

namespace RowFilter.Text

/-- The number that decimal digits denote, most significant first. -/
def digitsValue (s : List Char) : Nat := s.foldl (fun n c => 10 * n + (c.toNat - '0'.toNat)) 0

/-- Is the text digits, one at least? -/
def isDigits (s : List Char) : Bool := !s.isEmpty && s.all Char.isDigit

/-- The value of a hexadecimal digit, of either case. -/
def hexDigit? (c : Char) : Option Nat :=
  if '0' ≤ c ∧ c ≤ '9' then some (c.toNat - '0'.toNat)
  else if 'a' ≤ c ∧ c ≤ 'f' then some (c.toNat - 'a'.toNat + 10)
  else if 'A' ≤ c ∧ c ≤ 'F' then some (c.toNat - 'A'.toNat + 10)
  else none

/-- The text with ASCII capitals made small, and all else unchanged. -/
def asciiLower (s : List Char) : List Char := s.map Char.toLower

end RowFilter.Text
