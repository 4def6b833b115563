import Mathlib.Data.List.Forall2

/-!
# Traversals that stop at the first error

A filter is read and compiled by taking a function that may fail over a list, and over a list of
lists. Such a traversal succeeds exactly when the function does everywhere, and then the results
stand to the items one by one, as `List.Forall₂` says. It fails exactly when there is a first item
on which the function does, and with the error of that item (`mapM_eq_error`). Later proofs see a
traversal in these two forms only, with no monad left in it; where a traversal of groups fails, it
is for them the traversal of one list (`mapM_groups_eq_error`). Two traversals of related lists are
compared by the same forms: if the functions do alike on related items, they fail at one place
(`exists_mapM_eq_error_of_alike`).
-/

set_option autoImplicit false

namespace RowFilter

variable {ε α β : Type}

/-- Two steps succeed when the first one does, and the second one on its result. -/
theorem bind_eq_ok {x : Except ε α} {f : α → Except ε β} {b : β} :
    (x >>= f) = .ok b ↔ ∃ a, x = .ok a ∧ f a = .ok b := by
  cases x with
  | error e =>
    constructor
    · intro h
      cases h
    · rintro ⟨a, h, -⟩
      cases h
  | ok a =>
    constructor
    · exact fun h => ⟨a, rfl, h⟩
    · rintro ⟨a', h, hb⟩
      cases h
      exact hb

theorem mapM_eq_ok {f : α → Except ε β} {xs : List α} {ys : List β} :
    xs.mapM f = .ok ys ↔ List.Forall₂ (fun x y => f x = .ok y) xs ys := by
  induction xs generalizing ys with
  | nil =>
    rw [List.mapM_nil, List.forall₂_nil_left_iff]
    exact ⟨fun h => by cases h; rfl, fun h => by rw [h]; rfl⟩
  | cons x xs ih =>
    rw [List.mapM_cons, bind_eq_ok, List.forall₂_cons_left_iff]
    constructor
    · rintro ⟨y, hy, h⟩
      obtain ⟨ys', hys, heq⟩ := bind_eq_ok.mp h
      cases heq
      exact ⟨y, ys', hy, ih.mp hys, rfl⟩
    · rintro ⟨y, ys', hy, hys, rfl⟩
      exact ⟨y, hy, bind_eq_ok.mpr ⟨ys', ih.mpr hys, rfl⟩⟩

/-- The same for functions that say no more about a failure. -/
theorem mapM_eq_some {f : α → Option β} {xs : List α} {ys : List β} :
    xs.mapM f = some ys ↔ List.Forall₂ (fun x y => f x = some y) xs ys := by
  induction xs generalizing ys with
  | nil =>
    rw [List.mapM_nil, List.forall₂_nil_left_iff]
    exact Option.some_inj.trans eq_comm
  | cons x xs ih =>
    rw [List.mapM_cons, Option.bind_eq_bind, Option.bind_eq_some_iff, List.forall₂_cons_left_iff]
    constructor
    · rintro ⟨y, hy, h⟩
      obtain ⟨ys', hys, heq⟩ := Option.bind_eq_some_iff.mp h
      cases heq
      exact ⟨y, ys', hy, ih.mp hys, rfl⟩
    · rintro ⟨y, ys', hy, hys, rfl⟩
      exact ⟨y, hy, Option.bind_eq_some_iff.mpr ⟨ys', ih.mpr hys, rfl⟩⟩

/-! ## What holds of one side holds of the other -/

section Related

variable {R : α → β → Prop} {p : α → Prop} {q : β → Prop} {xs : List α} {ys : List β}

theorem eq_nil_iff_of_forall₂ (h : List.Forall₂ R xs ys) : xs = [] ↔ ys = [] := by
  cases h <;> simp

theorem exists_of_mem_forall₂ (h : List.Forall₂ R xs ys) {x : α} (hx : x ∈ xs) :
    ∃ y ∈ ys, R x y := by
  induction h with
  | nil => exact absurd hx List.not_mem_nil
  | @cons x' y xs ys hxy _ ih =>
    rcases List.mem_cons.mp hx with rfl | hx
    · exact ⟨y, List.mem_cons_self, hxy⟩
    · obtain ⟨y', hy', hxy'⟩ := ih hx
      exact ⟨y', List.mem_cons_of_mem _ hy', hxy'⟩

/-- A relation may be replaced by one that follows from it for the items there are. -/
theorem forall₂_imp_of_mem {S : α → β → Prop} (h : List.Forall₂ R xs ys)
    (himp : ∀ x ∈ xs, ∀ y, R x y → S x y) : List.Forall₂ S xs ys := by
  induction h with
  | nil => exact .nil
  | @cons x y xs ys hxy _ ih =>
    refine .cons (himp x List.mem_cons_self y hxy) (ih ?_)
    exact fun x' hx' => himp x' (List.mem_cons_of_mem x hx')

theorem exists_append_of_forall₂ {xs' : List α} (h : List.Forall₂ R (xs ++ xs') ys) :
    ∃ zs zs', ys = zs ++ zs' ∧ List.Forall₂ R xs zs ∧ List.Forall₂ R xs' zs' := by
  induction xs generalizing ys with
  | nil => exact ⟨[], ys, rfl, .nil, h⟩
  | cons x xs ih =>
    obtain ⟨z, ys', hxz, hrest, rfl⟩ := List.forall₂_cons_left_iff.mp h
    obtain ⟨zs, zs', rfl, hzs, hzs'⟩ := ih hrest
    exact ⟨z :: zs, zs', rfl, .cons hxz hzs, hzs'⟩

theorem forall_mem_iff_of_forall₂ (h : List.Forall₂ R xs ys) (hpq : ∀ x y, R x y → (p x ↔ q y)) :
    (∀ x ∈ xs, p x) ↔ ∀ y ∈ ys, q y := by
  induction h with
  | nil => simp
  | cons hxy _ ih => simp [hpq _ _ hxy, ih]

theorem exists_mem_iff_of_forall₂ (h : List.Forall₂ R xs ys) (hpq : ∀ x y, R x y → (p x ↔ q y)) :
    (∃ x ∈ xs, p x) ↔ ∃ y ∈ ys, q y := by
  induction h with
  | nil => simp
  | cons hxy _ ih => simp [hpq _ _ hxy, ih]

end Related

/-- Results that exist one by one are a list of results, and what is known of each of them is known
of the list. -/
theorem exists_forall₂_map {γ δ : Type} {R : α → γ → Prop} {f : γ → δ} {g : β → δ} {xs : List α}
    {ys : List β} (h : List.Forall₂ (fun y x => ∃ z, R x z ∧ f z = g y) ys xs) :
    ∃ zs, List.Forall₂ R xs zs ∧ zs.map f = ys.map g := by
  induction h with
  | nil => exact ⟨[], .nil, rfl⟩
  | cons hxy _ ih =>
    obtain ⟨z, hz, hfz⟩ := hxy
    obtain ⟨zs, hzs, hmap⟩ := ih
    refine ⟨z :: zs, .cons hz hzs, ?_⟩
    rw [List.map_cons, List.map_cons, hfz, hmap]

/-! ## The first failure -/

theorem map_eq_error {x : Except ε α} {f : α → β} {e : ε} : f <$> x = .error e ↔ x = .error e := by
  cases x with
  | error e' =>
    constructor <;> intro h <;> cases h <;> rfl
  | ok a =>
    constructor <;> intro h <;> cases h

/-- What fails alike succeeds alike. -/
theorem exists_eq_ok_congr {x : Except ε α} {y : Except ε β}
    (h : ∀ e, x = .error e ↔ y = .error e) : (∃ a, x = .ok a) ↔ ∃ b, y = .ok b := by
  cases x with
  | error e =>
    rw [(h e).mp rfl]
    constructor <;> rintro ⟨_, hok⟩ <;> cases hok
  | ok a =>
    cases y with
    | error e =>
      have hx := (h e).mpr rfl
      cases hx
    | ok b => exact ⟨fun _ => ⟨b, rfl⟩, fun _ => ⟨a, rfl⟩⟩

/-- A traversal fails with the error of the first item that has one. What comes after that item
does not matter. -/
theorem mapM_eq_error {f : α → Except ε β} {xs : List α} {e : ε} :
    xs.mapM f = .error e ↔ ∃ before x after, xs = before ++ x :: after ∧
      (∀ b ∈ before, ∃ y, f b = .ok y) ∧ f x = .error e := by
  induction xs with
  | nil =>
    constructor
    · intro h
      cases h
    · rintro ⟨before, x, after, h, -⟩
      cases before <;> cases h
  | cons x xs ih =>
    rw [List.mapM_cons]
    cases hx : f x with
    | error e' =>
      constructor
      · intro h
        cases h
        exact ⟨[], x, xs, rfl, fun b hb => absurd hb List.not_mem_nil, hx⟩
      · rintro ⟨before, x', after, h, hbefore, hx'⟩
        cases before with
        | nil =>
          cases h
          rw [← hx, hx']
          rfl
        | cons b before =>
          cases h
          obtain ⟨y, hy⟩ := hbefore x List.mem_cons_self
          rw [hx] at hy
          cases hy
    | ok y =>
      have htail : (y :: ·) <$> xs.mapM f = .error e ↔ xs.mapM f = .error e := map_eq_error
      refine htail.trans (ih.trans ?_)
      constructor
      · rintro ⟨before, x', after, rfl, hbefore, hx'⟩
        refine ⟨x :: before, x', after, rfl, fun b hb => ?_, hx'⟩
        rcases List.mem_cons.mp hb with rfl | hb
        · exact ⟨y, hx⟩
        · exact hbefore b hb
      · rintro ⟨before, x', after, h, hbefore, hx'⟩
        cases before with
        | nil =>
          cases h
          rw [hx] at hx'
          cases hx'
        | cons b before =>
          cases h
          exact ⟨before, x', after, rfl, fun b hb => hbefore b (List.mem_cons_of_mem x hb), hx'⟩

theorem exists_mapM_eq_ok {f : α → Except ε β} {xs : List α} :
    (∃ ys, xs.mapM f = .ok ys) ↔ ∀ x ∈ xs, ∃ y, f x = .ok y := by
  constructor
  · rintro ⟨ys, h⟩ x hx
    obtain ⟨y, -, hy⟩ := exists_of_mem_forall₂ (mapM_eq_ok.mp h) hx
    exact ⟨y, hy⟩
  · intro h
    cases hys : xs.mapM f with
    | ok ys => exact ⟨ys, rfl⟩
    | error e =>
      obtain ⟨before, x, after, rfl, -, hx⟩ := mapM_eq_error.mp hys
      obtain ⟨y, hy⟩ := h x (by simp)
      rw [hx] at hy
      cases hy

theorem mapM_append_of_error {f : α → Except ε β} {xs : List α} (ys : List α) {e : ε}
    (h : xs.mapM f = .error e) : (xs ++ ys).mapM f = .error e := by
  rw [List.mapM_append, h]
  rfl

theorem mapM_append_of_ok {f : α → Except ε β} {xs ys : List α} {e : ε}
    (hxs : ∀ x ∈ xs, ∃ y, f x = .ok y) (h : ys.mapM f = .error e) :
    (xs ++ ys).mapM f = .error e := by
  obtain ⟨zs, hzs⟩ := exists_mapM_eq_ok.mpr hxs
  rw [List.mapM_append, hzs, h]
  rfl

/-- A traversal of groups fails as the traversal of all their members does. -/
theorem mapM_groups_eq_error {γ δ : Type} {f : α → Except ε β} {members : γ → List α}
    {g : List β → δ} {xs : List γ} {e : ε} :
    (xs.mapM fun x => g <$> (members x).mapM f) = .error e ↔
      (xs.flatMap members).mapM f = .error e := by
  induction xs with
  | nil =>
    constructor <;> intro h <;> cases h
  | cons x xs ih =>
    rw [List.mapM_cons, List.flatMap_cons, List.mapM_append]
    cases (members x).mapM f with
    | error e' =>
      constructor <;> intro h <;> cases h <;> rfl
    | ok ys =>
      have hgroups : (g ys :: ·) <$> (xs.mapM fun x => g <$> (members x).mapM f) = .error e ↔
          (xs.mapM fun x => g <$> (members x).mapM f) = .error e := map_eq_error
      have hmembers : (ys ++ ·) <$> (xs.flatMap members).mapM f = .error e ↔
          (xs.flatMap members).mapM f = .error e := map_eq_error
      exact hgroups.trans (ih.trans hmembers.symm)

/-! ## Two runs -/

/-- Both computations succeed, with related results, or both fail, with related errors. -/
inductive Alike {ε' : Type} (E : ε → ε' → Prop) (R : α → β → Prop) :
    Except ε α → Except ε' β → Prop
  | ok {a : α} {b : β} : R a b → Alike E R (.ok a) (.ok b)
  | error {e : ε} {e' : ε'} : E e e' → Alike E R (.error e) (.error e')

namespace Alike

variable {ε' γ δ : Type} {E : ε → ε' → Prop} {R : α → β → Prop} {x : Except ε α} {y : Except ε' β}

theorem exists_ok (h : Alike E R x y) {a : α} (hx : x = .ok a) : ∃ b, y = .ok b ∧ R a b := by
  cases h with
  | ok hab =>
    cases hx
    exact ⟨_, rfl, hab⟩
  | error => cases hx

theorem exists_error (h : Alike E R x y) {e : ε} (hx : x = .error e) :
    ∃ e', y = .error e' ∧ E e e' := by
  cases h with
  | ok => cases hx
  | error he =>
    cases hx
    exact ⟨_, rfl, he⟩

theorem map {S : γ → δ → Prop} {f : α → γ} {g : β → δ} (h : Alike E R x y)
    (hfg : ∀ a b, R a b → S (f a) (g b)) : Alike E S (x.map f) (y.map g) := by
  cases h with
  | ok hab => exact .ok (hfg _ _ hab)
  | error he => exact .error he

/-- Computations that fail with the same errors succeed together. -/
theorem of_eq_error_iff {y : Except ε β} (h : ∀ e, x = .error e ↔ y = .error e) :
    Alike Eq (fun _ _ => True) x y := by
  cases x with
  | error e =>
    rw [(h e).mp rfl]
    exact .error rfl
  | ok a =>
    cases y with
    | error e => cases (h e).mpr rfl
    | ok b => exact .ok trivial

end Alike

/-- Traversals of related lists fail at the same place if the function does alike on related items:
what is before the first failure of one is before the first failure of the other. -/
theorem exists_mapM_eq_error_of_alike {ε' γ : Type} {E : ε → ε' → Prop} {S : α → γ → Prop}
    {R : β → β → Prop} {f : α → Except ε β} {g : γ → Except ε' β} {xs : List α} {ys : List γ}
    (hxys : List.Forall₂ S xs ys) (hfg : ∀ x y, S x y → Alike E R (f x) (g y)) {e : ε}
    (h : xs.mapM f = .error e) :
    ∃ before x after before' y after' e', xs = before ++ x :: after ∧
      ys = before' ++ y :: after' ∧ List.Forall₂ S before before' ∧ S x y ∧
      (∀ b ∈ before, ∃ c, f b = .ok c) ∧ (∀ b ∈ before', ∃ c, g b = .ok c) ∧
      f x = .error e ∧ g y = .error e' ∧ E e e' ∧ ys.mapM g = .error e' := by
  obtain ⟨before, x, after, rfl, hbefore, hx⟩ := mapM_eq_error.mp h
  obtain ⟨before', rest, rfl, hzs, hrest⟩ := exists_append_of_forall₂ hxys
  obtain ⟨y, after', hxy, -, rfl⟩ := List.forall₂_cons_left_iff.mp hrest
  obtain ⟨e', hy, he⟩ := (hfg x y hxy).exists_error hx
  have hbefore' : ∀ b ∈ before', ∃ c, g b = .ok c := by
    intro b hb
    obtain ⟨a, ha, hab⟩ := exists_of_mem_forall₂ hzs.flip hb
    obtain ⟨c, hc⟩ := hbefore a ha
    obtain ⟨c', hc', -⟩ := (hfg a b hab).exists_ok hc
    exact ⟨c', hc'⟩
  exact ⟨before, x, after, before', y, after', e', rfl, rfl, hzs, hxy, hbefore, hbefore', hx, hy,
    he, mapM_eq_error.mpr ⟨before', y, after', rfl, hbefore', hy⟩⟩

end RowFilter
