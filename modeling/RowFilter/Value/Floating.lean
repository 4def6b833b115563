import RowFilter.Value.Kind

/-!
# Binary floating-point numbers

A number is a sign and a *magnitude*: the exponent field and the fraction field of its bits, read
together as one natural number. Magnitudes are laid out so that a larger one means a larger
absolute value, infinity lies above all finite ones and the NaNs above infinity. Comparing numbers
is therefore comparing magnitudes with a sign, and there is no arithmetic in it.

The same layout makes rounding short. In multiples of the smallest positive number, the *units*,
every finite number is an integer; below `2 ^ (fractionBits + 1)` units the magnitude is the number
of units itself, and each doubling above that adds `2 ^ fractionBits` magnitudes. A rounding that
carries into the next doubling lands on the right magnitude by itself.
-/

set_option autoImplicit false

namespace RowFilter

namespace FloatFormat

def fractionBits : FloatFormat → Nat
  | single => 23
  | double => 52

def exponentBits : FloatFormat → Nat
  | single => 8
  | double => 11

/-- The smallest positive number is two to the minus this. -/
def unitExponent : FloatFormat → Nat
  | single => 149
  | double => 1074

def magnitudes (f : FloatFormat) : Nat := Nat.pow 2 (f.exponentBits + f.fractionBits)

/-- The magnitude of infinity: an exponent of ones, a fraction of zeros. -/
def infinity (f : FloatFormat) : Nat := (Nat.pow 2 f.exponentBits - 1) * Nat.pow 2 f.fractionBits

/-- The magnitude of the NaN that reading the word for it gives. -/
def quietNaN (f : FloatFormat) : Nat := f.infinity + Nat.pow 2 (f.fractionBits - 1)

/-- How many doublings a magnitude is above the smallest numbers. -/
def doublings (f : FloatFormat) (magnitude : Nat) : Nat := magnitude / Nat.pow 2 f.fractionBits - 1

/-- The absolute value of a finite number in units, from its magnitude. -/
def units (f : FloatFormat) (magnitude : Nat) : Nat :=
  let doublings := f.doublings magnitude
  (magnitude - doublings * Nat.pow 2 f.fractionBits) * Nat.pow 2 doublings

/-- The integer nearest to a quotient, and of two nearest ones the even one. -/
def roundQuotient (num den : Nat) : Nat :=
  let quotient := num / den
  let twice := 2 * (num % den)
  if twice < den ∨ (twice = den ∧ quotient % 2 = 0) then quotient else quotient + 1

/-- The magnitude nearest to a number of units given as a quotient. Half-way goes to the even
one, and what is too large goes to infinity. -/
def nearest (f : FloatFormat) (num den : Nat) : Nat :=
  let doublings := Nat.log2 (num / den) - f.fractionBits
  Nat.min (doublings * Nat.pow 2 f.fractionBits + roundQuotient num (den * Nat.pow 2 doublings))
    f.infinity

theorem infinity_lt_magnitudes (f : FloatFormat) : f.infinity < f.magnitudes := by
  cases f <;> decide +kernel

theorem quietNaN_lt_magnitudes (f : FloatFormat) : f.quietNaN < f.magnitudes := by
  cases f <;> decide +kernel

theorem nearest_le_infinity (f : FloatFormat) (num den : Nat) : f.nearest num den ≤ f.infinity :=
  Nat.min_le_right _ _

end FloatFormat

structure Floating (f : FloatFormat) where
  negative : Bool
  magnitude : Nat
  inRange : magnitude < f.magnitudes
  deriving DecidableEq, Repr

namespace Floating

variable {f g : FloatFormat}

instance : Inhabited (Floating f) := ⟨false, 0, by cases f <;> decide +kernel⟩

def isNaN (x : Floating f) : Bool := f.infinity < x.magnitude

/-- The place on the number line. Both zeros have the same. -/
def place (x : Floating f) : Int := if x.negative then -x.magnitude else x.magnitude

/-- The order by value. A NaN is in no order with anything. -/
def compare? (x : Floating f) (y : Floating g) : Option Ordering :=
  if x.isNaN || y.isNaN then none else some (compare x.place y.place)

/-- Equality of value: zeros are equal whatever their sign, and a NaN equals nothing. -/
def equals (x : Floating f) (y : Floating g) : Bool :=
  !x.isNaN && !y.isNaN && x.magnitude = y.magnitude &&
    (x.negative = y.negative || x.magnitude = 0)

/-- The bits as a number, the sign in the highest. -/
def toBits (x : Floating f) : Nat := (if x.negative then f.magnitudes else 0) + x.magnitude

/-- The number with these bits. Higher bits than the format has are dropped. -/
def ofBits (f : FloatFormat) (bits : Nat) : Floating f where
  negative := (bits / f.magnitudes) % 2 = 1
  magnitude := bits % f.magnitudes
  inRange := Nat.mod_lt _ (by cases f <;> decide +kernel)

def infinite (f : FloatFormat) (negative : Bool) : Floating f :=
  ⟨negative, f.infinity, f.infinity_lt_magnitudes⟩

def nan (f : FloatFormat) (negative : Bool) : Floating f :=
  ⟨negative, f.quietNaN, f.quietNaN_lt_magnitudes⟩

/-- The number nearest to `digits * 10 ^ exponent`, with a sign. -/
def ofDecimal (f : FloatFormat) (negative : Bool) (digits : Nat) (exponent : Int) : Floating f :=
  let scaled := digits * Nat.pow 2 f.unitExponent
  let magnitude :=
    if 0 ≤ exponent then f.nearest (scaled * Nat.pow 10 exponent.toNat) 1
    else f.nearest scaled (Nat.pow 10 (-exponent).toNat)
  ⟨negative, magnitude, by
    have h := f.infinity_lt_magnitudes
    unfold magnitude
    split <;> exact Nat.lt_of_le_of_lt (f.nearest_le_infinity _ _) h⟩

end Floating
end RowFilter
