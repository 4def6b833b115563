import Mathlib.Data.List.Basic
import RowFilter.Value.Order

/-!
# The order of values is an order of lists

Each kind of value has a comparison of its own, and equality is defined apart from all of them. They
are brought under one roof by `Value.rank`: a value is ranked by a list of integers, the place of its
kind first and then the numbers that its kind is compared by. Two values that are not *unordered*,
as values of one float format are with a NaN among them, compare as their ranks do, in lexicographic
order (`compare?_eq`), and they are equal exactly when their ranks are (`equals_iff`). So the laws of
an order hold of values because they hold of lists.
-/

set_option autoImplicit false

namespace RowFilter

/-! ## Lists that stand for other lists -/

/-- A map that keeps comparisons of members keeps comparisons of lists. -/
theorem compare_map {α β : Type} [Ord α] [Ord β] {f : α → β} {xs ys : List α}
    (hf : ∀ x ∈ xs, ∀ y ∈ ys, compare (f x) (f y) = compare x y) :
    compare (xs.map f) (ys.map f) = compare xs ys := by
  induction xs generalizing ys with
  | nil => cases ys <;> rfl
  | cons x xs ih =>
    cases ys with
    | nil => rfl
    | cons y ys =>
      have hhead := hf x List.mem_cons_self y List.mem_cons_self
      have htail := ih fun a ha b hb => hf a (List.mem_cons_of_mem x ha) b (List.mem_cons_of_mem y hb)
      rw [List.map_cons, List.map_cons, List.compare_cons_cons, List.compare_cons_cons, hhead, htail]

/-- Members that are alike on both sides can be left out. -/
theorem compare_map_filter {α β : Type} [Ord β] {p : α → Bool} {f g : α → β} {l : List α}
    (h : ∀ a ∈ l, p a = false → compare (f a) (g a) = .eq) :
    compare (l.map f) (l.map g) = compare ((l.filter p).map f) ((l.filter p).map g) := by
  induction l with
  | nil => rfl
  | cons a l ih =>
    have htail := ih fun b hb => h b (List.mem_cons_of_mem a hb)
    rw [List.map_cons, List.map_cons, List.compare_cons_cons, htail]
    cases hp : p a with
    | false =>
      rw [h a List.mem_cons_self hp, Ordering.eq_then, List.filter_cons_of_neg (by simp [hp])]
    | true =>
      rw [List.filter_cons_of_pos hp, List.map_cons, List.map_cons, List.compare_cons_cons]

/-- Lists of bytes are compared from the first byte on. -/
theorem Text.compare_eq_lt_iff {s t : List UInt8} : compare s t = .lt ↔ s < t := by
  induction s generalizing t with
  | nil => cases t <;> simp
  | cons b s ih =>
    cases t with
    | nil => simp
    | cons c t =>
      rw [List.compare_cons_cons, Ordering.then_eq_lt, List.cons_lt_cons_iff, Std.compare_eq_lt,
        Std.LawfulEqOrd.compare_eq_iff_eq, ih]

/-- Numbers compare as integers. -/
theorem compare_natCast (m n : Nat) : compare (m : Int) (n : Int) = compare m n := by
  show compareOfLessAndEq (m : Int) (n : Int) = compareOfLessAndEq m n
  simp only [compareOfLessAndEq, Int.ofNat_lt, Int.natCast_inj]

/-- Bytes compare as numbers. -/
theorem compare_toNat (x y : UInt8) : compare x.toNat y.toNat = compare x y := by
  show compareOfLessAndEq x.toNat y.toNat = compareOfLessAndEq x y
  simp only [compareOfLessAndEq, UInt8.lt_iff_toNat_lt, UInt8.toNat_inj]

/-- The bytes as numbers. -/
def Text.codes (bytes : List UInt8) : List Int := bytes.map fun b => (b.toNat : Int)

theorem Text.compare_codes (s t : List UInt8) : compare (codes s) (codes t) = compare s t := by
  refine compare_map fun x _ y _ => ?_
  rw [compare_natCast, compare_toNat]

theorem Text.codes_injective : Function.Injective codes :=
  List.map_injective_iff.mpr fun _ _ h => UInt8.toNat_inj.mp (Int.natCast_inj.mp h)

/-- A text is told by its bytes. -/
theorem Text.bytes_injective : Function.Injective bytes := by
  have hbytes : ∀ s, bytes s = s.flatMap String.utf8EncodeChar := by
    intro s
    induction s with
    | nil => rfl
    | cons c r ih => rw [bytes, ih, List.flatMap_cons]
  intro s t h
  rw [hbytes, hbytes] at h
  have hencoded : s.utf8Encode = t.utf8Encode := congrArg List.toByteArray h
  rw [← String.toByteArray_ofList, ← String.toByteArray_ofList, String.toByteArray_inj] at hencoded
  exact String.ofList_injective hencoded

theorem DateTime.parts_injective : Function.Injective parts := by
  intro s t h
  cases s
  cases t
  simp only [parts, List.cons.injEq, Int.natCast_inj] at h
  simp [h]

namespace Floating

variable {f : FloatFormat} {x y : Floating f}

/-- Numbers are equal when they have one place on the number line, the zeros included. -/
theorem equals_iff_place :
    x.equals y = true ↔ x.isNaN = false ∧ y.isNaN = false ∧ x.place = y.place := by
  have hplace : (x.magnitude = y.magnitude ∧ (x.negative = y.negative ∨ x.magnitude = 0)) ↔
      x.place = y.place := by
    unfold place
    cases x.negative <;> cases y.negative <;> simp <;> omega
  simp [equals, ← hplace, and_assoc]

/-- Zero and minus zero. -/
example : (ofBits .double 0).equals (ofBits .double 0x8000000000000000) = true := by decide +kernel

end Floating

namespace Value

/-! ## Ranks -/

def isNaN : Value → Bool
  | float x => x.isNaN
  | _ => false

/-- The values are of one kind and one of them is a NaN. -/
def Unordered (a b : Value) : Prop := a.kind = b.kind ∧ (a.isNaN = true ∨ b.isNaN = true)

instance (a b : Value) : Decidable (Unordered a b) := by unfold Unordered; infer_instance

/-- The numbers by which values of one kind are compared. -/
def weight : Value → List Int
  | bool b => [if b then 1 else 0]
  | integer n => [n.val]
  | float x => [x.place]
  | dateTime t => t.parts
  | uuid u => Text.codes u.bytes
  | text s => Text.codes (Text.bytes s.toList)

/-- The place of the kind, and the numbers by which values of that kind are compared. -/
def rank (a : Value) : List Int := a.kind.position :: a.weight

/-- Two values of one kind. -/
inductive SameKind : Value → Value → Prop
  | bool (x y : Bool) : SameKind (.bool x) (.bool y)
  | integer {w : IntWidth} (m n : BoundedInt w) : SameKind (.integer m) (.integer n)
  | float {f : FloatFormat} (x y : Floating f) : SameKind (.float x) (.float y)
  | dateTime (s t : DateTime) : SameKind (.dateTime s) (.dateTime t)
  | uuid (s t : Uuid) : SameKind (.uuid s) (.uuid t)
  | text (s t : String) : SameKind (.text s) (.text t)

variable {a b c : Value}

theorem sameKind_of_kind_eq (h : a.kind = b.kind) : SameKind a b := by
  cases a with
  | bool x => cases b <;> cases h; exact .bool _ _
  | integer m => cases b <;> cases h; exact .integer _ _
  | float x => cases b <;> cases h; exact .float _ _
  | dateTime s => cases b <;> cases h; exact .dateTime _ _
  | uuid s => cases b <;> cases h; exact .uuid _ _
  | text s => cases b <;> cases h; exact .text _ _

/-! ## Comparing by ranks -/

/-- A single number decides. -/
theorem compare_singleton (m n : Int) : compare [m] [n] = compare m n := by
  rw [List.compare_cons_cons]
  exact Ordering.then_eq

theorem compare?_of_kind_eq (h : a.kind = b.kind) :
    a.compare? b = if a.isNaN = true ∨ b.isNaN = true then none
      else some (compare a.weight b.weight) := by
  cases sameKind_of_kind_eq h with
  | bool x y => cases x <;> cases y <;> rfl
  | @integer w m n =>
    show (if w = w then _ else _) = some (compare [m.val] [n.val])
    rw [if_pos rfl, compare_singleton]
  | @float f x y =>
    show (if f = f then x.compare? y else _) =
      if x.isNaN = true ∨ y.isNaN = true then none else some (compare [x.place] [y.place])
    rw [if_pos rfl, compare_singleton, Floating.compare?]
    simp only [Bool.or_eq_true]
  | dateTime s t => rfl
  | uuid s t =>
    show some (compare s.bytes t.bytes) = some (compare (Text.codes _) (Text.codes _))
    rw [Text.compare_codes]
  | text s t =>
    show some (compare _ _) = some (compare (Text.codes _) (Text.codes _))
    rw [Text.compare_codes]

theorem compare?_of_kind_ne (h : a.kind ≠ b.kind) :
    a.compare? b = some (compare a.kind.position b.kind.position) := by
  cases a with
  | integer m =>
    cases b with
    | integer n => exact if_neg fun hw => h (congrArg Kind.integer hw)
    | _ => rfl
  | float x =>
    cases b with
    | float y => exact if_neg fun hf => h (congrArg Kind.float hf)
    | _ => rfl
  | _ => cases b <;> first | rfl | exact absurd rfl h

theorem compare_rank (a b : Value) :
    compare a.rank b.rank =
      (compare a.kind.position b.kind.position).then (compare a.weight b.weight) := by
  rw [rank, rank, List.compare_cons_cons, compare_natCast]

/-- Values compare as their ranks do, unless they are unordered. -/
theorem compare?_eq (a b : Value) :
    a.compare? b = if a.Unordered b then none else some (compare a.rank b.rank) := by
  rw [compare_rank]
  by_cases h : a.kind = b.kind
  · rw [compare?_of_kind_eq h, h, Std.ReflOrd.compare_self, Ordering.eq_then]
    simp only [Unordered, h, true_and]
  · have hposition : compare a.kind.position b.kind.position ≠ .eq := by
      intro heq
      exact h (Kind.position_inj (Std.LawfulEqOrd.eq_of_compare heq))
    rw [compare?_of_kind_ne h, if_neg fun hnan => h hnan.1]
    cases hcompare : compare a.kind.position b.kind.position with
    | eq => exact absurd hcompare hposition
    | lt | gt => rfl

/-- Equality looks at what the order looks at. -/
theorem equals_iff_weight (h : a.kind = b.kind) :
    a.equals b = true ↔ a.isNaN = false ∧ b.isNaN = false ∧ a.weight = b.weight := by
  cases sameKind_of_kind_eq h with
  | bool x y => cases x <;> cases y <;> decide
  | integer m n => simp [equals, isNaN, weight]
  | float x y => simp [equals, isNaN, weight, Floating.equals_iff_place]
  | dateTime s t => simp [equals, isNaN, weight, DateTime.parts_injective.eq_iff]
  | uuid s t =>
    cases s
    cases t
    simp [equals, isNaN, weight, Text.codes_injective.eq_iff]
  | text s t =>
    simp [equals, isNaN, weight, Text.codes_injective.eq_iff, Text.bytes_injective.eq_iff,
      String.toList_inj]

theorem equals_of_kind_ne (h : a.kind ≠ b.kind) : a.equals b = false := by
  cases a with
  | @integer v m =>
    cases b with
    | @integer w n =>
      have hw : v ≠ w := fun heq => h (congrArg Kind.integer heq)
      simp [equals, hw]
    | _ => rfl
  | @float f x =>
    cases b with
    | @float g y =>
      have hf : f ≠ g := fun heq => h (congrArg Kind.float heq)
      simp [equals, hf]
    | _ => rfl
  | _ => cases b <;> first | rfl | exact absurd rfl h

/-- Values are equal when the order says so. -/
theorem equals_iff (a b : Value) : a.equals b = true ↔ a.compare? b = some .eq := by
  by_cases h : a.kind = b.kind
  · rw [equals_iff_weight h, compare?_of_kind_eq h]
    simp [and_assoc]
  · rw [equals_of_kind_ne h, compare?_of_kind_ne h]
    simp [mt Kind.position_inj h]

/-! ## Laws -/

theorem unordered_comm : a.Unordered b ↔ b.Unordered a := by
  simp only [Unordered, eq_comm, or_comm]

theorem compare?_eq_none : a.compare? b = none ↔ a.Unordered b := by
  simp [compare?_eq]

theorem lt_iff : a.lt b = true ↔ ¬ a.Unordered b ∧ compare a.rank b.rank = .lt := by
  simp [lt, compare?_eq]

theorem gt_iff : a.gt b = true ↔ ¬ a.Unordered b ∧ compare a.rank b.rank = .gt := by
  simp [gt, compare?_eq]

theorem le_iff : a.le b = true ↔ ¬ a.Unordered b ∧ (compare a.rank b.rank).isLE = true := by
  simp [le, compare?_eq, Ordering.isLE_iff_eq_lt_or_eq_eq, and_or_left]

theorem ge_iff : a.ge b = true ↔ ¬ a.Unordered b ∧ (compare a.rank b.rank).isGE = true := by
  simp [ge, compare?_eq, Ordering.isGE_iff_eq_gt_or_eq_eq, and_or_left]

theorem gt_iff_lt : a.gt b = true ↔ b.lt a = true := by
  rw [gt_iff, lt_iff, unordered_comm, Std.OrientedCmp.gt_iff_lt]

theorem ge_iff_le : a.ge b = true ↔ b.le a = true := by
  rw [ge_iff, le_iff, unordered_comm, Std.OrientedCmp.isGE_iff_isLE]

/-- Ranks put kinds first. -/
theorem position_le_of_isLE (h : (compare a.rank b.rank).isLE = true) :
    a.kind.position ≤ b.kind.position := by
  rw [compare_rank] at h
  exact Nat.isLE_compare.mp (Ordering.isLE_left_of_isLE_then h)

/-- What lies between two values of one kind is of that kind, and then none of the three is a NaN. -/
theorem not_unordered_of_le_of_le (hab : a.le b = true) (hbc : b.le c = true) : ¬ a.Unordered c := by
  obtain ⟨hab, hle⟩ := le_iff.mp hab
  obtain ⟨hbc, hle'⟩ := le_iff.mp hbc
  intro hac
  have h := position_le_of_isLE hle
  have h' := position_le_of_isLE hle'
  have hkind : a.kind = b.kind := by
    apply Kind.position_inj
    rw [← hac.1] at h'
    omega
  cases hac.2 with
  | inl hnan => exact hab ⟨hkind, Or.inl hnan⟩
  | inr hnan => exact hbc ⟨hkind.symm.trans hac.1, Or.inr hnan⟩

theorem le_of_lt (h : a.lt b = true) : a.le b = true := by
  obtain ⟨hordered, hlt⟩ := lt_iff.mp h
  exact le_iff.mpr ⟨hordered, Ordering.isLE_of_eq_lt hlt⟩

theorem le_trans (hab : a.le b = true) (hbc : b.le c = true) : a.le c = true :=
  le_iff.mpr ⟨not_unordered_of_le_of_le hab hbc,
    Std.TransCmp.isLE_trans (le_iff.mp hab).2 (le_iff.mp hbc).2⟩

theorem lt_of_lt_of_le (hab : a.lt b = true) (hbc : b.le c = true) : a.lt c = true :=
  lt_iff.mpr ⟨not_unordered_of_le_of_le (le_of_lt hab) hbc,
    Std.TransCmp.lt_of_lt_of_isLE (lt_iff.mp hab).2 (le_iff.mp hbc).2⟩

theorem lt_of_le_of_lt (hab : a.le b = true) (hbc : b.lt c = true) : a.lt c = true :=
  lt_iff.mpr ⟨not_unordered_of_le_of_le hab (le_of_lt hbc),
    Std.TransCmp.lt_of_isLE_of_lt (le_iff.mp hab).2 (lt_iff.mp hbc).2⟩

/-- Only a float can be a NaN. -/
theorem exists_float_of_isNaN (h : a.isNaN = true) : ∃ f, a.kind = .float f := by
  cases a with
  | @float f x => exact ⟨f, rfl⟩
  | bool | integer | dateTime | uuid | text => cases h

end Value
end RowFilter
