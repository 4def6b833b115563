import Mathlib.Data.EReal.Operations
import Mathlib.Tactic.FieldSimp
import RowFilter.Value.Floating

/-!
# The numbers that floats stand for

A float is kept as a sign and a magnitude, and compared as such. Here it is given the number that the
standard gives it by the exponent and the fraction, infinities included (`Floating.number`). A larger
magnitude is a larger number (`absolute_strictMono`): within one exponent the fraction counts up, and
where it runs over, the next exponent starts with twice the smallest number of the one before. So the
place of a float on the line of magnitudes is its place on the line of numbers (`number_lt_iff`).
-/

set_option autoImplicit false

namespace RowFilter

namespace FloatFormat

variable (f : FloatFormat)

/-- What is added to the exponent of a number to make the exponent field. -/
def bias : FloatFormat → Nat
  | single => 127
  | double => 1023

/-- The absolute value of a finite number, by the exponent field and the fraction field of its
magnitude. The smallest exponent is that of the subnormal numbers, which have no leading one. -/
noncomputable def absolute (magnitude : Nat) : ℝ :=
  let exponent := magnitude / 2 ^ f.fractionBits
  let fraction : ℝ := ((magnitude % 2 ^ f.fractionBits : Nat) : ℝ) / 2 ^ f.fractionBits
  if exponent = 0 then fraction * 2 ^ (1 - (f.bias : ℤ))
  else (1 + fraction) * 2 ^ ((exponent : ℤ) - f.bias)

/-! ## Magnitudes count up -/

theorem units_lt_succ (m : Nat) : f.units m < f.units (m + 1) := by
  obtain ⟨size, hsize⟩ : ∃ size, 2 ^ f.fractionBits = size := ⟨_, rfl⟩
  have hpos : 0 < size := hsize ▸ Nat.two_pow_pos _
  have hm := Nat.div_add_mod' m size
  have hfraction := Nat.mod_lt m hpos
  show (m - (m / 2 ^ f.fractionBits - 1) * 2 ^ f.fractionBits) * 2 ^ (m / 2 ^ f.fractionBits - 1) <
    (m + 1 - ((m + 1) / 2 ^ f.fractionBits - 1) * 2 ^ f.fractionBits) *
      2 ^ ((m + 1) / 2 ^ f.fractionBits - 1)
  rw [hsize]
  by_cases hlast : m % size + 1 = size
  · -- The fraction runs over.
    have hnext : (m + 1) / size = m / size + 1 := by
      rw [show m + 1 = (m / size + 1) * size by rw [Nat.add_mul]; omega, Nat.mul_div_cancel _ hpos]
    rw [hnext, Nat.add_sub_cancel]
    have hstart : m + 1 - m / size * size = size := by omega
    rw [hstart]
    cases hexponent : m / size with
    | zero =>
      rw [hexponent] at hm
      simp only [Nat.zero_sub, Nat.zero_mul, Nat.pow_zero]
      omega
    | succ e =>
      rw [hexponent, Nat.add_mul] at hm
      rw [Nat.add_sub_cancel, Nat.pow_succ, Nat.mul_comm (2 ^ e) 2, ← Nat.mul_assoc]
      exact Nat.mul_lt_mul_of_pos_right (by omega) (Nat.two_pow_pos e)
  · have hsame : (m + 1) / size = m / size := by
      rw [Nat.div_eq_iff hpos]
      omega
    rw [hsame]
    refine Nat.mul_lt_mul_of_pos_right ?_ (Nat.two_pow_pos _)
    have hle : (m / size - 1) * size ≤ m :=
      (Nat.mul_le_mul_right size (Nat.sub_le _ 1)).trans (Nat.div_mul_le_self m size)
    omega

theorem unitExponent_eq : f.unitExponent + 1 = f.bias + f.fractionBits := by
  cases f <;> rfl

/-- The number of units by the two fields. -/
theorem units_eq (m : Nat) : f.units m =
    if m / 2 ^ f.fractionBits = 0 then m % 2 ^ f.fractionBits
    else (2 ^ f.fractionBits + m % 2 ^ f.fractionBits) * 2 ^ (m / 2 ^ f.fractionBits - 1) := by
  have hm := Nat.div_add_mod' m (2 ^ f.fractionBits)
  show (m - (m / 2 ^ f.fractionBits - 1) * 2 ^ f.fractionBits) * 2 ^ (m / 2 ^ f.fractionBits - 1) = _
  cases hexponent : m / 2 ^ f.fractionBits with
  | zero =>
    rw [hexponent] at hm
    simp only [Nat.zero_sub, Nat.zero_mul, Nat.pow_zero, if_true]
    omega
  | succ e =>
    rw [hexponent, Nat.add_mul] at hm
    rw [if_neg (Nat.succ_ne_zero e), Nat.add_sub_cancel]
    congr 1
    omega

/-- Units are what absolute values are multiples of. -/
theorem absolute_eq_units (m : Nat) : f.absolute m = f.units m * 2 ^ (-(f.unitExponent : ℤ)) := by
  have htwo : (2 : ℝ) ≠ 0 := by norm_num
  have hunit : (2 : ℝ) ^ (-(f.unitExponent : ℤ)) = 2 ^ (1 - (f.bias : ℤ)) / 2 ^ f.fractionBits := by
    have hbias := f.unitExponent_eq
    rw [← zpow_natCast, ← zpow_sub₀ htwo]
    congr 1
    omega
  unfold absolute
  rw [hunit, units_eq]
  by_cases hexponent : m / 2 ^ f.fractionBits = 0
  · rw [if_pos hexponent, if_pos hexponent]
    ring
  · obtain ⟨e, he⟩ := Nat.exists_eq_succ_of_ne_zero hexponent
    have hpower : (2 : ℝ) ^ (((e + 1 : Nat) : ℤ) - f.bias) = 2 ^ e * 2 ^ (1 - (f.bias : ℤ)) := by
      rw [← zpow_natCast, ← zpow_add₀ htwo]
      congr 1
      omega
    rw [if_neg hexponent, if_neg hexponent, he, Nat.succ_eq_add_one, hpower, Nat.add_sub_cancel]
    push_cast
    field_simp

theorem absolute_strictMono : StrictMono f.absolute := by
  refine strictMono_nat_of_lt_succ fun m => ?_
  rw [absolute_eq_units, absolute_eq_units]
  refine mul_lt_mul_of_pos_right ?_ (zpow_pos (by norm_num) _)
  exact_mod_cast f.units_lt_succ m

theorem absolute_zero : f.absolute 0 = 0 := by
  simp [absolute]

/-! ## Infinity -/

/-- The absolute value of a number that may be infinite. -/
noncomputable def size (magnitude : Nat) : EReal :=
  if magnitude = f.infinity then ⊤ else (f.absolute magnitude : EReal)

theorem size_strictMonoOn : StrictMonoOn f.size (Set.Iic f.infinity) := by
  intro m hm n hn hmn
  have hfinite : m ≠ f.infinity := (Nat.lt_of_lt_of_le hmn hn).ne
  rw [size, size, if_neg hfinite]
  by_cases hinfinite : n = f.infinity
  · rw [if_pos hinfinite]
    exact EReal.coe_lt_top _
  · rw [if_neg hinfinite, EReal.coe_lt_coe_iff]
    exact f.absolute_strictMono hmn

theorem size_zero : f.size 0 = 0 := by
  have hinfinity : 0 ≠ f.infinity := by cases f <;> decide +kernel
  rw [size, if_neg hinfinity, absolute_zero]
  rfl

theorem size_nonneg {m : Nat} (hm : m ≤ f.infinity) : 0 ≤ f.size m := by
  rw [← f.size_zero]
  exact f.size_strictMonoOn.monotoneOn (Nat.zero_le _) hm (Nat.zero_le m)

end FloatFormat

namespace Floating

variable {f : FloatFormat} {x y : Floating f}

/-- The number that the float stands for, if it is not a NaN. -/
noncomputable def number (x : Floating f) : EReal :=
  if x.negative then -f.size x.magnitude else f.size x.magnitude

/-- Both zeros are zero. -/
theorem number_zero (h : x.magnitude = 0) : x.number = 0 := by
  unfold number
  rw [h, f.size_zero]
  cases x.negative <;> simp

theorem number_infinite (f : FloatFormat) (negative : Bool) :
    (infinite f negative).number = if negative then ⊥ else ⊤ := by
  cases negative <;> simp [number, infinite, FloatFormat.size]

theorem magnitude_le_infinity (h : x.isNaN = false) : x.magnitude ≤ f.infinity := by
  simpa [isNaN] using h

/-- **The line of magnitudes is the line of numbers.** -/
theorem number_lt_iff (hx : x.isNaN = false) (hy : y.isNaN = false) :
    x.number < y.number ↔ x.place < y.place := by
  have hx := magnitude_le_infinity hx
  have hy := magnitude_le_infinity hy
  have hlt : ∀ {m n}, m ≤ f.infinity → n ≤ f.infinity → (f.size m < f.size n ↔ m < n) :=
    fun hm hn => f.size_strictMonoOn.lt_iff_lt hm hn
  unfold number place
  cases x.negative <;> cases y.negative
  · simp [hlt hx hy]
  · have hle : -f.size y.magnitude ≤ f.size x.magnitude :=
      (EReal.neg_le_zero.mpr (f.size_nonneg hy)).trans (f.size_nonneg hx)
    simp only [Bool.false_eq_true, if_true, if_false, not_lt.mpr hle, false_iff]
    omega
  · -- A negative number is the smaller one, unless both are zero.
    by_cases hzero : x.magnitude = 0
    · have hpos := hlt (Nat.zero_le _) hy
      rw [f.size_zero] at hpos
      simp [hzero, f.size_zero, hpos]
    · have hpos : 0 < f.size x.magnitude := by
        rw [← f.size_zero]
        exact (hlt (Nat.zero_le _) hx).mpr (Nat.pos_of_ne_zero hzero)
      have hless : -f.size x.magnitude < f.size y.magnitude :=
        (EReal.neg_lt_zero.mpr hpos).trans_le (f.size_nonneg hy)
      simp only [Bool.false_eq_true, if_true, if_false, hless, true_iff]
      omega
  · simp [hlt hy hx]

theorem number_eq_iff (hx : x.isNaN = false) (hy : y.isNaN = false) :
    x.number = y.number ↔ x.place = y.place := by
  have hxy := number_lt_iff hx hy
  have hyx := number_lt_iff hy hx
  rw [le_antisymm_iff, le_antisymm_iff, ← not_lt, ← not_lt, hxy, hyx, not_lt, not_lt]

end Floating
end RowFilter
