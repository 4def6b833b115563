import Mathlib.Data.List.TakeWhile
import RowFilter.Proofs.Text.Numeral
import RowFilter.Value.Basic

/-!
# Numbers in literals

An integer literal is a numeral with a sign in front or without, and it is a value of a type when the
integer that it denotes is in the range of the type. The reader finds the integer first and compares
it with the range afterwards. A machine cannot do that, because a literal has any number of digits; it
takes the digits one by one and gives up as soon as it leaves the range. That the two agree is
`accumulate_eq_checked`: a number only ever moves away from zero as digits are added, so it does not
come back into a range that it has left.

The range is all that types of one signedness differ in, so a literal of one type is a literal of
every wider type, for the same integer. It is a literal of a float format too, and there the formats
do not differ at all: a decimal that is too large for one is infinite in it.
-/

set_option autoImplicit false

namespace RowFilter

open Text (IsNumeral placeValue digitValue)

namespace IntWidth

variable {v w : IntWidth} {s : List Char} {n : Int}

/-- The text denotes the integer: a numeral, with a plus sign in front of it or without, or with a
minus sign if the type has one. -/
inductive Denotes (w : IntWidth) : List Char → Int → Prop
  | unsigned {digits : List Char} : IsNumeral digits → Denotes w digits (placeValue digits)
  | plus {digits : List Char} : IsNumeral digits → Denotes w ('+' :: digits) (placeValue digits)
  | minus {digits : List Char} : w.signed = true → IsNumeral digits →
      Denotes w ('-' :: digits) (-placeValue digits)

/-- The integer is a value of the type. -/
def InRange (w : IntWidth) (n : Int) : Prop := w.min ≤ n ∧ n ≤ w.max

instance (w : IntWidth) (n : Int) : Decidable (w.InRange n) := by unfold InRange; infer_instance

/-- Every value of the first type is one of the second. -/
def FitsIn (v w : IntWidth) : Prop := w.min ≤ v.min ∧ v.max ≤ w.max

instance (v w : IntWidth) : Decidable (v.FitsIn w) := by unfold FitsIn; infer_instance

example : (∀ w, w ≠ .i8 → w ≠ .u8 → FitsIn .u8 w ∧ FitsIn .i8 w) ∧ FitsIn .i16 .i32 ∧
    FitsIn .i32 .i64 := by
  refine ⟨?_, by decide, by decide⟩
  intro w
  cases w <;> decide

theorem FitsIn.inRange (h : v.FitsIn w) (hn : v.InRange n) : w.InRange n :=
  ⟨Int.le_trans h.1 hn.1, Int.le_trans hn.2 h.2⟩

/-- Only the signed types have negative values. -/
theorem FitsIn.signed (h : v.FitsIn w) (hv : v.signed = true) : w.signed = true := by
  cases v <;> cases w <;> revert h hv <;> decide

theorem FitsIn.denotes (h : v.FitsIn w) (hs : v.Denotes s n) : w.Denotes s n := by
  cases hs with
  | unsigned hdigits => exact .unsigned hdigits
  | plus hdigits => exact .plus hdigits
  | minus hsigned hdigits => exact .minus (h.signed hsigned) hdigits

end IntWidth

namespace BoundedInt

variable {w : IntWidth} {s : List Char} {n : Int}

theorem readNat?_eq_some {m : Nat} : readNat? s = some m ↔ IsNumeral s ∧ m = placeValue s := by
  unfold readNat?
  rw [Text.digitsValue_eq_placeValue]
  by_cases h : Text.isDigits s = true
  · simp [h, Text.isDigits_iff.mp h, eq_comm]
  · have hs : ¬ IsNumeral s := fun hs => h (Text.isDigits_iff.mpr hs)
    simp [h, hs]

/-- The number of a numeral, on either side of zero. -/
theorem map_readNat?_eq_some {f : Int → Int} :
    (Option.map f do return (← readNat? s)) = some n ↔ IsNumeral s ∧ n = f (placeValue s) := by
  rw [Option.map_eq_some_iff]
  constructor
  · intro h
    obtain ⟨i, hi, rfl⟩ := h
    obtain ⟨m, hm, heq⟩ := Option.bind_eq_some_iff.mp hi
    cases heq
    obtain ⟨hdigits, rfl⟩ := readNat?_eq_some.mp hm
    exact ⟨hdigits, rfl⟩
  · intro h
    obtain ⟨hdigits, rfl⟩ := h
    rw [readNat?_eq_some.mpr ⟨hdigits, rfl⟩]
    exact ⟨_, rfl, rfl⟩

/-- The integer that is read is the one that the text denotes. -/
theorem readInt?_eq_some : readInt? w s = some n ↔ w.Denotes s n := by
  constructor
  · intro h
    unfold readInt? at h
    split at h
    · obtain ⟨hdigits, rfl⟩ := map_readNat?_eq_some.mp h
      exact .plus hdigits
    · split at h
      · next hsigned =>
        obtain ⟨hdigits, rfl⟩ := map_readNat?_eq_some.mp h
        exact .minus hsigned hdigits
      · cases h
    · obtain ⟨hdigits, rfl⟩ := map_readNat?_eq_some.mp h
      exact .unsigned hdigits
  · intro h
    cases h with
    | plus hdigits => exact map_readNat?_eq_some.mpr ⟨hdigits, rfl⟩
    | minus hsigned hdigits =>
      rw [readInt?, if_pos hsigned]
      exact map_readNat?_eq_some.mpr ⟨hdigits, rfl⟩
    | unsigned hdigits =>
      -- A digit comes first, so it is the last branch that reads.
      obtain ⟨c, r, rfl⟩ := List.exists_cons_of_ne_nil hdigits.1
      obtain ⟨hplus, hminus⟩ := hdigits.head
      unfold readInt?
      split
      · next heq => exact absurd (List.cons.inj heq).1 hplus
      · next heq => exact absurd (List.cons.inj heq).1 hminus
      · exact map_readNat?_eq_some.mpr ⟨hdigits, rfl⟩

theorem ofInt?_eq_some {b : BoundedInt w} : ofInt? w n = some b ↔ b.val = n := by
  unfold ofInt?
  constructor
  · intro h
    split at h
    · cases h
      rfl
    · cases h
  · rintro rfl
    exact dif_pos b.inRange

theorem read?_eq_some {b : BoundedInt w} : read? w s = some b ↔ w.Denotes s b.val := by
  unfold read?
  rw [Option.bind_eq_bind, Option.bind_eq_some_iff]
  constructor
  · rintro ⟨m, hm, hb⟩
    rw [ofInt?_eq_some.mp hb]
    exact readInt?_eq_some.mp hm
  · intro h
    exact ⟨b.val, readInt?_eq_some.mpr h, ofInt?_eq_some.mpr rfl⟩

/-- A value is read from the text that it is printed as. -/
theorem denotes_toString (b : BoundedInt w) : w.Denotes (toString b.val).toList b.val := by
  cases hval : b.val with
  | ofNat m =>
    have hdigits := IntWidth.Denotes.unsigned (w := w) (Text.isNumeral_toDigits m)
    rw [Text.placeValue_toDigits] at hdigits
    have htext : (toString (Int.ofNat m)).toList = Nat.toDigits 10 m := Nat.toList_repr
    rw [htext]
    exact hdigits
  | negSucc m =>
    have hsigned : w.signed = true := by
      have hmin := b.inRange.1
      rw [hval] at hmin
      cases w with
      | u8 => simp [IntWidth.min] at hmin
      | i8 | i16 | i32 | i64 => rfl
    have hdigits := IntWidth.Denotes.minus hsigned (Text.isNumeral_toDigits (m + 1))
    rw [Text.placeValue_toDigits] at hdigits
    have htext : (toString (Int.negSucc m)).toList = '-' :: Nat.toDigits 10 (m + 1) := by
      show ("-" ++ Nat.repr (m + 1)).toList = _
      simp [String.toList_append, Nat.toList_repr]
    rw [htext]
    exact hdigits

/-! ## Digit by digit -/

/-- The number on its side of zero. -/
def onSide (negative : Bool) (m : Nat) : Int := if negative then -m else m

/-- The integer, if it is in the range. -/
def checked (w : IntWidth) (n : Int) : Option Int := if w.InRange n then some n else none

/-- The next digit takes the number away from zero, unless that leaves the range. -/
def step (w : IntWidth) (negative : Bool) (n : Int) (c : Char) : Option Int :=
  checked w (10 * n + onSide negative (digitValue c))

/-- The number of the digits, if it stays in the range up to the last of them. -/
def accumulate (w : IntWidth) (negative : Bool) (digits : List Char) : Option Int :=
  digits.foldlM (step w negative) 0

theorem checked_eq_some {m : Int} : checked w m = some n ↔ n = m ∧ w.InRange m := by
  unfold checked
  by_cases h : w.InRange m
  · simp [h, eq_comm]
  · simp [h]

theorem onSide_next (negative : Bool) (m k : Nat) :
    10 * onSide negative m + onSide negative k = onSide negative (10 * m + k) := by
  cases negative with
  | false => simp [onSide]
  | true =>
    simp only [onSide, if_true]
    omega

/-- What is nearer to zero is in the range too. -/
theorem inRange_onSide {negative : Bool} {m k : Nat} (hle : m ≤ k)
    (h : w.InRange (onSide negative k)) : w.InRange (onSide negative m) := by
  have hzero : w.min ≤ 0 ∧ 0 ≤ w.max := by cases w <;> decide
  cases negative <;> simp [onSide, IntWidth.InRange] at h ⊢ <;> omega

/-- One step keeps to the side of zero and to the range. -/
theorem step_eq_some {negative : Bool} {m : Nat} {c : Char} :
    step w negative (onSide negative m) c = some n ↔
      n = onSide negative (10 * m + digitValue c) ∧
        w.InRange (onSide negative (10 * m + digitValue c)) := by
  rw [step, onSide_next, checked_eq_some]

/-- Giving up at the first digit that leaves the range is giving up at the end. -/
theorem accumulate_eq_checked (w : IntWidth) (negative : Bool) (digits : List Char) :
    accumulate w negative digits = checked w (onSide negative (placeValue digits)) := by
  apply Option.ext
  intro n
  rw [checked_eq_some]
  induction digits using List.reverseRecOn generalizing n with
  | nil =>
    have hzero : onSide negative (placeValue []) = 0 := by cases negative <;> rfl
    have hrange : w.InRange 0 := by cases w <;> decide
    simp [accumulate, hzero, hrange, eq_comm]
  | append_singleton digits c ih =>
    rw [accumulate, List.foldlM_append, Option.bind_eq_bind, Option.bind_eq_some_iff,
      Text.placeValue_concat]
    simp only [List.foldlM_cons, List.foldlM_nil, bind_pure]
    constructor
    · intro h
      obtain ⟨m, hm, hstep⟩ := h
      obtain ⟨rfl, -⟩ := (ih m).mp hm
      exact step_eq_some.mp hstep
    · intro h
      -- The digits before the last one are a smaller number.
      have hbefore := inRange_onSide (m := placeValue digits) (by omega) h.2
      exact ⟨_, (ih _).mpr ⟨rfl, hbefore⟩, step_eq_some.mpr h⟩

end BoundedInt

/-! ## Floats -/

namespace Floating

variable {f : FloatFormat} {s : List Char}

/-- The text after its sign, if it starts with one. -/
def withoutSign : List Char → List Char
  | [] => []
  | c :: r => if c = '+' ∨ c = '-' then r else c :: r

/-- The text is a word for infinity, in any letter case. -/
def IsInfinity (s : List Char) : Prop :=
  Text.asciiLower s = ['i', 'n', 'f'] ∨
    Text.asciiLower s = ['i', 'n', 'f', 'i', 'n', 'i', 't', 'y']

/-- The text says how far from zero a number is, or that it is none. -/
def IsMagnitude (s : List Char) : Prop :=
  IsInfinity s ∨ Text.asciiLower s = ['n', 'a', 'n'] ∨ ∃ d, Decimal.read? s = some d

theorem exists_readUnsigned?_iff {negative : Bool} :
    (∃ x, readUnsigned? f negative s = some x) ↔ IsMagnitude s := by
  simp only [readUnsigned?, IsMagnitude, IsInfinity]
  split
  · next hinf => simp [hinf]
  · next hinf =>
    split
    · next hnan => simp [hnan]
    · next hnan => simp [hinf, hnan]

/-- Whether a text is accepted does not depend on the format. -/
theorem exists_read?_iff : (∃ x, read? f s = some x) ↔ IsMagnitude (withoutSign s) := by
  unfold read? withoutSign
  split
  · simpa using exists_readUnsigned?_iff
  · simpa using exists_readUnsigned?_iff
  · next hplus hminus =>
    cases s with
    | nil => exact exists_readUnsigned?_iff
    | cons c r =>
      have hsign : ¬ (c = '+' ∨ c = '-') := by
        rintro (rfl | rfl)
        · exact hplus r rfl
        · exact hminus r rfl
      simp only [if_neg hsign]
      exact exists_readUnsigned?_iff

/-- A numeral is a decimal without a point and without an exponent. -/
theorem isMagnitude_of_isNumeral (h : IsNumeral s) : IsMagnitude s := by
  have hdigits : s.takeWhile Char.isDigit = s := List.takeWhile_eq_self_iff.mpr h.2
  have hrest : s.dropWhile Char.isDigit = [] := List.dropWhile_eq_nil_iff.mpr h.2
  refine Or.inr (Or.inr ⟨⟨Text.digitsValue s, 0⟩, ?_⟩)
  unfold Decimal.read?
  simp [hdigits, hrest, h.1, Decimal.readExponent?]

/-- What denotes an integer is a float too. -/
theorem isMagnitude_of_denotes {w : IntWidth} {n : Int} (h : w.Denotes s n) :
    IsMagnitude (withoutSign s) := by
  cases h with
  | plus hdigits => exact isMagnitude_of_isNumeral hdigits
  | minus _ hdigits => exact isMagnitude_of_isNumeral hdigits
  | unsigned hdigits =>
    obtain ⟨c, r, rfl⟩ := List.exists_cons_of_ne_nil hdigits.1
    obtain ⟨hplus, hminus⟩ := hdigits.head
    simpa [withoutSign, hplus, hminus] using isMagnitude_of_isNumeral hdigits

end Floating

/-! ## Literals -/

namespace Value

variable {w : IntWidth} {f : FloatFormat} {s : String}

theorem ofLiteral?_integer_eq_some {v : Value} : ofLiteral? (.integer w) s = some v ↔
    ∃ (n : Int) (h : w.InRange n), w.Denotes s.toList n ∧ v = .integer (w := w) ⟨n, h⟩ := by
  unfold ofLiteral?
  rw [Option.map_eq_some_iff]
  constructor
  · rintro ⟨b, hb, rfl⟩
    exact ⟨b.val, b.inRange, BoundedInt.read?_eq_some.mp hb, rfl⟩
  · rintro ⟨n, h, hdenotes, rfl⟩
    exact ⟨⟨n, h⟩, BoundedInt.read?_eq_some.mpr hdenotes, rfl⟩

theorem exists_ofLiteral?_float_iff : (∃ v, ofLiteral? (.float f) s = some v) ↔
    Floating.IsMagnitude (Floating.withoutSign s.toList) := by
  rw [← Floating.exists_read?_iff (f := f)]
  simp [ofLiteral?]

/-- **Integers are read exactly.** The integer literals of a type are the texts that denote an
integer in its range, and they are read as that integer; it is the same to give up at the first digit
that leaves the range. A value is read from the text it is printed as. A literal of a type is one of
every type with a wider range, for the same integer, and of the float formats, which accept the same
literals. -/
theorem integers_read_exactly :
    (∀ (w : IntWidth) (s : String) (v : Value), ofLiteral? (.integer w) s = some v ↔
      ∃ (n : Int) (h : w.InRange n), w.Denotes s.toList n ∧ v = .integer (w := w) ⟨n, h⟩) ∧
    (∀ (w : IntWidth) (negative : Bool) (digits : List Char),
      BoundedInt.accumulate w negative digits =
        BoundedInt.checked w (BoundedInt.onSide negative (placeValue digits))) ∧
    (∀ (w : IntWidth) (b : BoundedInt w),
      ofLiteral? (.integer w) (toString b.val) = some (.integer b)) ∧
    (∀ (v w : IntWidth) (s : String) (b : BoundedInt v), v.FitsIn w →
      ofLiteral? (.integer v) s = some (.integer b) →
      ∃ c : BoundedInt w, c.val = b.val ∧ ofLiteral? (.integer w) s = some (.integer c)) ∧
    (∀ (w : IntWidth) (f : FloatFormat) (s : String),
      (∃ v, ofLiteral? (.integer w) s = some v) → ∃ v, ofLiteral? (.float f) s = some v) ∧
    ∀ (f g : FloatFormat) (s : String),
      (∃ v, ofLiteral? (.float f) s = some v) ↔ ∃ v, ofLiteral? (.float g) s = some v := by
  refine ⟨fun w s v => ofLiteral?_integer_eq_some, BoundedInt.accumulate_eq_checked, ?_, ?_, ?_, ?_⟩
  · intro w b
    exact ofLiteral?_integer_eq_some.mpr ⟨b.val, b.inRange, b.denotes_toString, rfl⟩
  · intro v w s b hfits hb
    obtain ⟨n, hn, hdenotes, heq⟩ := ofLiteral?_integer_eq_some.mp hb
    cases heq
    have hwide := ofLiteral?_integer_eq_some.mpr ⟨n, hfits.inRange hn, hfits.denotes hdenotes, rfl⟩
    exact ⟨_, rfl, hwide⟩
  · intro w f s h
    obtain ⟨v, hv⟩ := h
    obtain ⟨n, -, hdenotes, -⟩ := ofLiteral?_integer_eq_some.mp hv
    exact exists_ofLiteral?_float_iff.mpr (Floating.isMagnitude_of_denotes hdenotes)
  · intro f g s
    rw [exists_ofLiteral?_float_iff, exists_ofLiteral?_float_iff]

/-- The lowest value of a byte, with zeros in front. -/
theorem integers_read_exactly_lowest :
    IntWidth.FitsIn .i8 .i64 ∧
    (∃ c : BoundedInt .i64, c.val = -128 ∧
      ofLiteral? (.integer .i64) "-000128" = some (.integer c)) ∧
    ∃ v, ofLiteral? (.float .single) "-000128" = some v := by
  have hread : ofLiteral? (.integer .i8) "-000128" =
      some (.integer (w := .i8) ⟨-128, by decide⟩) := by decide +kernel
  have hfits : IntWidth.FitsIn .i8 .i64 := by decide
  obtain ⟨-, -, -, hwiden, hfloat, -⟩ := integers_read_exactly
  exact ⟨hfits, hwiden _ _ _ _ hfits hread, hfloat _ _ _ ⟨_, hread⟩⟩

end Value
end RowFilter
