import RowFilter.Text.Digits
import RowFilter.Value.Floating

/-!
# Floating-point literals

A literal is a sign and then one of the words `inf`, `infinity` and `nan`, in any ASCII letter
case, or a decimal: digits with at most one point among them, before or after them, and at most
one exponent. Its value is the decimal, exactly, rounded once to the format of the field.
-/

set_option autoImplicit false

namespace RowFilter

/-- `digits * 10 ^ exponent`. -/
structure Decimal where
  digits : Nat
  exponent : Int
  deriving DecidableEq, Repr

namespace Decimal

/-- An exponent takes no further digits from here on. -/
def exponentCap : Nat := 65536

/-- The number that the digits of an exponent denote. Once it has reached the cap the digits left
over change nothing, which keeps it small whatever the literal. -/
def exponentValue (s : List Char) : Nat :=
  s.foldl (fun n c => if n < exponentCap then 10 * n + (c.toNat - '0'.toNat) else n) 0

/-- Reads an exponent from the whole of a text. No text is the exponent zero. -/
def readExponent? : List Char → Option Int
  | [] => some 0
  | e :: r =>
    if e = 'e' ∨ e = 'E' then
      let (negative, digits) := match r with
        | '+' :: r => (false, r)
        | '-' :: r => (true, r)
        | r => (false, r)
      if Text.isDigits digits then
        some (if negative then -(exponentValue digits : Int) else exponentValue digits)
      else none
    else none

/-- Reads a decimal without its sign from the whole of a text. -/
def read? (s : List Char) : Option Decimal :=
  let whole := s.takeWhile Char.isDigit
  let (fraction, rest) := match s.dropWhile Char.isDigit with
    | '.' :: r => (r.takeWhile Char.isDigit, r.dropWhile Char.isDigit)
    | r => ([], r)
  if (whole ++ fraction).isEmpty then none
  else (readExponent? rest).map fun exponent =>
    ⟨Text.digitsValue (whole ++ fraction), exponent - fraction.length⟩

end Decimal

namespace Floating

/-- Reads a literal without its sign. -/
def readUnsigned? (f : FloatFormat) (negative : Bool) (s : List Char) : Option (Floating f) :=
  let word := Text.asciiLower s
  if word = ['i', 'n', 'f'] ∨ word = ['i', 'n', 'f', 'i', 'n', 'i', 't', 'y'] then
    some (infinite f negative)
  else if word = ['n', 'a', 'n'] then some (nan f negative)
  else (Decimal.read? s).map fun d => ofDecimal f negative d.digits d.exponent

def read? (f : FloatFormat) : List Char → Option (Floating f)
  | '+' :: r => readUnsigned? f false r
  | '-' :: r => readUnsigned? f true r
  | s => readUnsigned? f false s

end Floating
end RowFilter
