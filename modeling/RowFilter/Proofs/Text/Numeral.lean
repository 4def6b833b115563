import Mathlib.Data.List.Induction
import Mathlib.Data.Nat.Digits.Defs
import Mathlib.Tactic.Ring
import RowFilter.Text.Digits

/-!
# Numerals and the numbers they denote

A *numeral* is a run of decimal digits, one at least, and it denotes a number by the places of its
digits: ones last, tens before them, and so on. The reader has no places. It goes through the digits
from the left and knows at each of them only the number so far, so that the two have to be brought
together (`digitsValue_eq_placeValue`). There is a numeral for every number, the one that printing it
gives (`placeValue_toDigits`), but no numeral is the only one for its number.
-/

set_option autoImplicit false

namespace RowFilter.Text

/-- A text of decimal digits, one at least. -/
def IsNumeral (s : List Char) : Prop := s ≠ [] ∧ ∀ c ∈ s, c.isDigit = true

/-- The number of a digit. -/
def digitValue (c : Char) : Nat := c.toNat - '0'.toNat

/-- The number that the digits denote by their places, of which the last one is that of the ones. -/
def placeValue (s : List Char) : Nat := Nat.ofDigits 10 (s.reverse.map digitValue)

theorem isDigits_iff {s : List Char} : isDigits s = true ↔ IsNumeral s := by
  unfold isDigits IsNumeral
  simp

/-- A numeral has no sign. -/
theorem IsNumeral.head {c : Char} {r : List Char} (h : IsNumeral (c :: r)) :
    c ≠ '+' ∧ c ≠ '-' := by
  have hc := h.2 c List.mem_cons_self
  constructor
  · intro hplus
    simp [hplus] at hc
  · intro hminus
    simp [hminus] at hc

/-- Another digit at the end moves the others up by one place. -/
theorem placeValue_concat (s : List Char) (c : Char) :
    placeValue (s ++ [c]) = 10 * placeValue s + digitValue c := by
  unfold placeValue
  rw [List.reverse_append, List.reverse_singleton, List.singleton_append, List.map_cons,
    Nat.ofDigits_cons, Nat.add_comm]

theorem digitsValue_concat (s : List Char) (c : Char) :
    digitsValue (s ++ [c]) = 10 * digitsValue s + digitValue c := by
  unfold digitsValue
  rw [List.foldl_append]
  rfl

/-- Reading from the left gives every digit its place. -/
theorem digitsValue_eq_placeValue (s : List Char) : digitsValue s = placeValue s := by
  induction s using List.reverseRecOn with
  | nil => rfl
  | append_singleton s c ih => rw [digitsValue_concat, placeValue_concat, ih]

/-- A number is printed as a numeral. -/
theorem isNumeral_toDigits (n : Nat) : IsNumeral (Nat.toDigits 10 n) := by
  refine ⟨?_, fun c hc => Nat.isDigit_of_mem_toDigits (by omega) (by omega) hc⟩
  exact Nat.toDigits_ne_nil

theorem placeValue_toDigits (n : Nat) : placeValue (Nat.toDigits 10 n) = n := by
  rw [← digitsValue_eq_placeValue]
  exact Nat.ofDigitChars_toDigits (by omega) (by omega)

/-! ## Digits of a fixed number -/

/-- So many decimal digits. -/
def DigitsOf (n : Nat) (s : List Char) : Prop := s.length = n ∧ ∀ c ∈ s, c.isDigit = true

theorem DigitsOf.isNumeral {n : Nat} {s : List Char} (h : DigitsOf (n + 1) s) : IsNumeral s := by
  refine ⟨?_, h.2⟩
  intro hnil
  simp [hnil, DigitsOf] at h

theorem digitValue_lt {c : Char} (h : c.isDigit = true) : digitValue c < 10 := by
  have hle : c.toNat ≤ '9'.toNat := by
    simp only [Char.isDigit, Bool.and_eq_true, decide_eq_true_eq] at h
    exact h.2
  unfold digitValue
  have hzero : '0'.toNat = 48 := rfl
  have hnine : '9'.toNat = 57 := rfl
  omega

theorem placeValue_append (s t : List Char) :
    placeValue (s ++ t) = placeValue s * 10 ^ t.length + placeValue t := by
  induction t using List.reverseRecOn with
  | nil => simp [placeValue]
  | append_singleton t c ih =>
    rw [← List.append_assoc, placeValue_concat, ih, placeValue_concat, List.length_append,
      List.length_singleton, Nat.pow_succ]
    ring

theorem placeValue_lt {s : List Char} (h : ∀ c ∈ s, c.isDigit = true) :
    placeValue s < 10 ^ s.length := by
  induction s using List.reverseRecOn with
  | nil => simp [placeValue]
  | append_singleton s c ih =>
    have hc := digitValue_lt (h c (by simp))
    have hs := ih fun d hd => h d (by simp [hd])
    rw [placeValue_concat, List.length_append, List.length_singleton, Nat.pow_succ]
    omega

theorem placeValue_replicate_zero (n : Nat) : placeValue (List.replicate n '0') = 0 := by
  induction n with
  | zero => rfl
  | succ n ih => simp [List.replicate_succ', placeValue_concat, ih, digitValue]

end RowFilter.Text
