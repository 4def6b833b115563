import RowFilter.Proofs.Value.FloatNumber
import RowFilter.Proofs.Value.Order

/-!
# The order of values is a total preorder

What the order of values promises, for values of one kind and of several. It is read off the ranks of
`RowFilter.Proofs.Value.Order` for all kinds at once: ranks are compared as lists are, so the order is
transitive, and turning a comparison round turns its result round. NaNs are the only exception, and
they are one among values of their own kind only: a NaN stands in its place among the other kinds.

Two kinds of comparison are spelled out further. Floats are compared by the numbers that they stand
for, and lists of bytes by their first difference (`lt_iff_precedes`).
-/

set_option autoImplicit false

namespace RowFilter

/-- The first list is a proper front part of the second, or where they differ first it has the smaller
byte. -/
def Text.Precedes (s t : List UInt8) : Prop :=
  (∃ b r, t = s ++ b :: r) ∨
    ∃ front b c s' t', s = front ++ b :: s' ∧ t = front ++ c :: t' ∧ b < c

theorem Text.precedes_cons_iff {b c : UInt8} {s t : List UInt8} :
    Precedes (b :: s) (c :: t) ↔ b < c ∨ b = c ∧ Precedes s t := by
  constructor
  · rintro (⟨d, r, h⟩ | ⟨front, d, d', s', t', hs, ht, hlt⟩)
    · obtain ⟨rfl, rfl⟩ := List.cons.inj h
      exact Or.inr ⟨rfl, Or.inl ⟨d, r, rfl⟩⟩
    · cases front with
      | nil =>
        obtain ⟨rfl, -⟩ := List.cons.inj hs
        obtain ⟨rfl, -⟩ := List.cons.inj ht
        exact Or.inl hlt
      | cons e front =>
        obtain ⟨rfl, rfl⟩ := List.cons.inj hs
        obtain ⟨rfl, rfl⟩ := List.cons.inj ht
        exact Or.inr ⟨rfl, Or.inr ⟨front, d, d', s', t', rfl, rfl, hlt⟩⟩
  · rintro (hlt | ⟨rfl, ⟨d, r, rfl⟩ | ⟨front, d, d', s', t', rfl, rfl, hlt⟩⟩)
    · exact Or.inr ⟨[], b, c, s, t, rfl, rfl, hlt⟩
    · exact Or.inl ⟨d, r, rfl⟩
    · exact Or.inr ⟨b :: front, d, d', s', t', rfl, rfl, hlt⟩

/-- Lists of bytes are ordered by their first difference. -/
theorem Text.lt_iff_precedes {s t : List UInt8} : s < t ↔ Precedes s t := by
  induction s generalizing t with
  | nil =>
    cases t with
    | nil => simp [Precedes]
    | cons c t => exact iff_of_true (by simp) (Or.inl ⟨c, t, rfl⟩)
  | cons b s ih =>
    cases t with
    | nil => simp [Precedes]
    | cons c t => rw [List.cons_lt_cons_iff, precedes_cons_iff, ih]

namespace Value

variable {a b : Value}

/-! ## NaNs -/

/-- Unordered values are floats of one format. -/
theorem unordered_iff : a.Unordered b ↔ ∃ (f : FloatFormat) (x y : Floating f),
    a = .float x ∧ b = .float y ∧ (x.isNaN = true ∨ y.isNaN = true) := by
  constructor
  · rintro ⟨hkind, hnan⟩
    cases sameKind_of_kind_eq hkind with
    | float x y => exact ⟨_, x, y, rfl, rfl, hnan⟩
    | _ => simp [isNaN] at hnan
  · rintro ⟨f, x, y, rfl, rfl, hnan⟩
    exact ⟨rfl, hnan⟩

theorem not_unordered (ha : a.isNaN = false) (hb : b.isNaN = false) : ¬ a.Unordered b := by
  simp [Unordered, ha, hb]

/-! ## Both ways round -/

theorem compare?_swap (a b : Value) : b.compare? a = (a.compare? b).map Ordering.swap := by
  have hswap : compare b.rank a.rank = (compare a.rank b.rank).swap := Std.OrientedCmp.eq_swap
  rw [compare?_eq, compare?_eq, hswap]
  by_cases h : a.Unordered b
  · rw [if_pos h, if_pos (unordered_comm.mp h)]
    rfl
  · rw [if_neg h, if_neg (mt unordered_comm.mpr h)]
    rfl

theorem le_total (ha : a.isNaN = false) (hb : b.isNaN = false) : a.le b = true ∨ b.le a = true := by
  rw [← ge_iff_le (a := a) (b := b), le_iff, ge_iff]
  have hordered := not_unordered ha hb
  cases h : compare a.rank b.rank with
  | lt | eq => exact Or.inl ⟨hordered, rfl⟩
  | gt => exact Or.inr ⟨hordered, rfl⟩

/-- Equality is to be at most the other, both ways round. -/
theorem le_antisymm_iff : a.le b = true ∧ b.le a = true ↔ a.equals b = true := by
  rw [← ge_iff_le (a := a) (b := b), equals_iff, le, ge]
  cases a.compare? b with
  | none => decide
  | some o => cases o <;> decide

/-! ## Floats, identifiers and texts -/

theorem float_lt_iff {f : FloatFormat} {x y : Floating f} (hx : x.isNaN = false)
    (hy : y.isNaN = false) : (float x).lt (float y) = true ↔ x.number < y.number := by
  have hordered : ¬ (float x).Unordered (float y) := not_unordered hx hy
  rw [lt_iff, compare_rank, Floating.number_lt_iff hx hy]
  simp [hordered, weight, kind, Std.compare_eq_lt]

theorem float_equals_iff {f : FloatFormat} {x y : Floating f} (hx : x.isNaN = false)
    (hy : y.isNaN = false) : (float x).equals (float y) = true ↔ x.number = y.number := by
  have hkind : (float x).kind = (float y).kind := rfl
  rw [Floating.number_eq_iff hx hy, equals_iff_weight hkind]
  simp [isNaN, hx, hy, weight]

theorem uuid_lt_iff {u v : Uuid} :
    (uuid u).lt (uuid v) = true ↔ Text.Precedes u.bytes v.bytes := by
  rw [← Text.lt_iff_precedes, ← Text.compare_eq_lt_iff]
  simp [lt, compare?]

theorem text_lt_iff {s t : String} : (text s).lt (text t) = true ↔
    Text.Precedes (Text.bytes s.toList) (Text.bytes t.toList) := by
  rw [← Text.lt_iff_precedes, ← Text.compare_eq_lt_iff]
  simp [lt, compare?]

/-- **But for NaNs, values are totally preordered, and equal when the order says so.** Only two floats
of one format are ever incomparable, one of them being a NaN. Comparing the other way round turns the
result round. Comparisons can be chained, NaNs or not. Values of different kinds are ordered as their
kinds are, floats by the numbers they stand for, with one number for both zeros and the infinities at
the ends, identifiers and texts by the first difference of their bytes. -/
theorem totally_preordered :
    (∀ a b : Value, a.compare? b = none ↔ ∃ (f : FloatFormat) (x y : Floating f),
      a = .float x ∧ b = .float y ∧ (x.isNaN = true ∨ y.isNaN = true)) ∧
    (∀ a b : Value, a.equals b = true ↔ a.compare? b = some .eq) ∧
    (∀ a b : Value, b.compare? a = (a.compare? b).map Ordering.swap) ∧
    (∀ a b c : Value, (a.le b = true → b.le c = true → a.le c = true) ∧
      (a.lt b = true → b.le c = true → a.lt c = true) ∧
      (a.le b = true → b.lt c = true → a.lt c = true)) ∧
    (∀ a b : Value, a.isNaN = false → b.isNaN = false → (a.le b = true ∨ b.le a = true) ∧
      (a.le b = true ∧ b.le a = true ↔ a.equals b = true)) ∧
    (∀ a b : Value, a.kind ≠ b.kind →
      a.compare? b = some (compare a.kind.position b.kind.position)) ∧
    (∀ (f : FloatFormat) (x y : Floating f), x.isNaN = false → y.isNaN = false →
      ((float x).lt (float y) = true ↔ x.number < y.number) ∧
      ((float x).equals (float y) = true ↔ x.number = y.number)) ∧
    (∀ (f : FloatFormat) (x : Floating f), (x.magnitude = 0 → x.number = 0) ∧
      (Floating.infinite f true).number = ⊥ ∧ (Floating.infinite f false).number = ⊤) ∧
    (∀ u v : Uuid, (uuid u).lt (uuid v) = true ↔ Text.Precedes u.bytes v.bytes) ∧
    ∀ s t : String, (text s).lt (text t) = true ↔
      Text.Precedes (Text.bytes s.toList) (Text.bytes t.toList) := by
  refine ⟨?_, equals_iff, compare?_swap, ?_, ?_, ?_, ?_, ?_, ?_, ?_⟩
  · intro a b
    rw [compare?_eq_none, unordered_iff]
  · exact fun a b c => ⟨le_trans, lt_of_lt_of_le, lt_of_le_of_lt⟩
  · exact fun a b ha hb => ⟨le_total ha hb, le_antisymm_iff⟩
  · exact fun a b => compare?_of_kind_ne
  · exact fun f x y hx hy => ⟨float_lt_iff hx hy, float_equals_iff hx hy⟩
  · exact fun f x => ⟨Floating.number_zero, Floating.number_infinite f true,
      Floating.number_infinite f false⟩
  · exact fun u v => uuid_lt_iff
  · exact fun s t => text_lt_iff

/-- A NaN between values of other kinds, the zeros, and a text before another that starts with it. -/
theorem totally_preordered_mixed :
    let nan := float (Floating.nan .single false)
    let zero := float (Floating.ofBits .double 0)
    let minusZero := float (Floating.ofBits .double 0x8000000000000000)
    (bool true).le nan = true ∧ nan.lt minusZero = true ∧ (bool true).lt minusZero = true ∧
      zero.isNaN = false ∧ minusZero.isNaN = false ∧ zero.equals minusZero = true ∧
      zero.le minusZero = true ∧ minusZero.le zero = true ∧
      nan.kind ≠ zero.kind ∧ nan.compare? zero = some (compare 6 7) ∧
      (Floating.ofBits .double 0).number = (Floating.ofBits .double 0x8000000000000000).number ∧
      (text "Zed").lt (text "Zedé") = true ∧
      nan.compare? nan = none := by
  intro nan zero minusZero
  obtain ⟨hnone, -, -, hchain, htotal, hkinds, hfloats, -, -, htexts⟩ := totally_preordered
  have hle : (bool true).le nan = true := by decide +kernel
  have hlt : nan.lt minusZero = true := by decide +kernel
  have hequal : zero.equals minusZero = true := by decide +kernel
  have hboth := (htotal zero minusZero rfl rfl).2.mpr hequal
  have hkind : nan.kind ≠ zero.kind := by decide
  exact ⟨hle, hlt, (hchain _ _ _).2.2 hle hlt, rfl, rfl, hequal, hboth.1, hboth.2, hkind,
    hkinds nan zero hkind, (hfloats _ _ _ rfl rfl).2.mp hequal,
    (htexts _ _).mpr (Or.inl ⟨0xC3, [0xA9], by decide +kernel⟩),
    (hnone nan nan).mpr ⟨_, _, _, rfl, rfl, Or.inl (by decide +kernel)⟩⟩

end Value
end RowFilter
