import Mathlib.Data.List.Forall2
import RowFilter.Predicate.Tree

/-!
# The shape and the truth of a tree of groups

`Tree.ofGroups` is the one place where lists become a tree. Three things are said of it here, and
nothing else is used later:

* its *truth*: a group is true when it is empty or one of its leaves is, and the tree when all its
  groups are;
* its *leaves*: the members of the groups, in order;
* its *shape*: both connectives nest to the left, and an empty group leaves no trace.

The shape is stated without a fold. `LeftNested` grows a list at its end, which is the way the tree
grows, so that a tree nested to the right is visibly none of these.
-/

set_option autoImplicit false

namespace RowFilter.Tree

variable {α β : Type}

/-! ## Truth -/

theorem eval_foldl_and (holds : α → Bool) (t : Tree α) (ts : List (Tree α)) :
    (ts.foldl and t).eval holds = (t.eval holds && ts.all (·.eval holds)) := by
  induction ts generalizing t with
  | nil => simp
  | cons u ts ih => rw [List.foldl_cons, ih, eval, List.all_cons, Bool.and_assoc]

theorem eval_foldl_or (holds : α → Bool) (t : Tree α) (ts : List (Tree α)) :
    (ts.foldl or t).eval holds = (t.eval holds || ts.any (·.eval holds)) := by
  induction ts generalizing t with
  | nil => simp
  | cons u ts ih => rw [List.foldl_cons, ih, eval, List.any_cons, Bool.or_assoc]

theorem eval_allOf (holds : α → Bool) (ts : List (Tree α)) :
    (allOf ts).eval holds = ts.all (·.eval holds) := by
  cases ts with
  | nil => rfl
  | cons t ts => exact eval_foldl_and holds t ts

theorem anyOf_cons (a : α) (as : List α) :
    anyOf (a :: as) = some ((as.map leaf).foldl or (leaf a)) := rfl

theorem anyOf_eq_none {as : List α} : anyOf as = none ↔ as = [] := by
  cases as with
  | nil => exact ⟨fun _ => rfl, fun _ => rfl⟩
  | cons a as => simp [anyOf_cons]

theorem eval_of_anyOf {holds : α → Bool} {as : List α} {t : Tree α} (h : anyOf as = some t) :
    t.eval holds = as.any holds := by
  cases as with
  | nil => cases h
  | cons a as =>
    rw [anyOf_cons, Option.some.injEq] at h
    rw [← h, eval_foldl_or, List.any_map, List.any_cons]
    rfl

/-- A tree of groups is true when every group that is not empty has a true leaf. -/
theorem eval_ofGroups (holds : α → Bool) (groups : List (List α)) :
    (ofGroups groups).eval holds = true ↔
      ∀ group ∈ groups, group ≠ [] → ∃ a ∈ group, holds a = true := by
  rw [ofGroups, eval_allOf, List.all_eq_true]
  constructor
  · intro h group hmem hne
    obtain ⟨a, as, rfl⟩ := List.exists_cons_of_ne_nil hne
    have ht := h _ (List.mem_filterMap.mpr ⟨_, hmem, anyOf_cons a as⟩)
    rw [eval_of_anyOf (anyOf_cons a as)] at ht
    exact List.any_eq_true.mp ht
  · intro h t ht
    obtain ⟨group, hmem, hany⟩ := List.mem_filterMap.mp ht
    have hne : group ≠ [] := by
      rintro rfl
      cases hany
    rw [eval_of_anyOf hany]
    exact List.any_eq_true.mpr (h group hmem hne)

/-- Two ways to judge leaves that agree on the leaves of a tree agree on the tree. -/
theorem eval_congr {p q : α → Bool} {t : Tree α} (h : ∀ a ∈ t.leaves, p a = q a) :
    t.eval p = t.eval q := by
  induction t with
  | always => rfl
  | leaf a => exact h a (by simp [leaves])
  | and l r ihl ihr | or l r ihl ihr =>
    simp only [leaves, List.mem_append] at h
    rw [eval, eval, ihl fun a ha => h a (Or.inl ha), ihr fun a ha => h a (Or.inr ha)]

/-! ## Leaves -/

theorem leaves_foldl {join : Tree α → Tree α → Tree α}
    (hjoin : ∀ l r, (join l r).leaves = l.leaves ++ r.leaves) (t : Tree α) (ts : List (Tree α)) :
    (ts.foldl join t).leaves = t.leaves ++ ts.flatMap leaves := by
  induction ts generalizing t with
  | nil => simp
  | cons u ts ih => rw [List.foldl_cons, ih, hjoin, List.flatMap_cons, List.append_assoc]

theorem leaves_allOf (ts : List (Tree α)) : (allOf ts).leaves = ts.flatMap leaves := by
  cases ts with
  | nil => rfl
  | cons t ts => exact leaves_foldl (fun _ _ => rfl) t ts

theorem leaves_of_anyOf {as : List α} {t : Tree α} (h : anyOf as = some t) : t.leaves = as := by
  cases as with
  | nil => cases h
  | cons a as =>
    rw [anyOf_cons, Option.some.injEq] at h
    rw [← h, leaves_foldl (fun _ _ => rfl), List.flatMap_map]
    simp [leaves]

theorem leaves_ofGroups (groups : List (List α)) : (ofGroups groups).leaves = groups.flatten := by
  rw [ofGroups, leaves_allOf]
  induction groups with
  | nil => rfl
  | cons group groups ih =>
    cases h : anyOf group with
    | none =>
      -- What is left out has no leaves.
      rw [List.filterMap_cons_none h, ih, anyOf_eq_none.mp h, List.flatten_cons, List.nil_append]
    | some t =>
      rw [List.filterMap_cons_some h, List.flatMap_cons, ih, leaves_of_anyOf h,
        List.flatten_cons]

/-! ## Replacing leaves -/

theorem map_foldl {join : Tree α → Tree α → Tree α} {join' : Tree β → Tree β → Tree β}
    {f : α → β} (hjoin : ∀ l r, (join l r).map f = join' (l.map f) (r.map f)) (t : Tree α)
    (ts : List (Tree α)) :
    (ts.foldl join t).map f = (ts.map (·.map f)).foldl join' (t.map f) := by
  induction ts generalizing t with
  | nil => rfl
  | cons u ts ih => rw [List.foldl_cons, ih, hjoin, List.map_cons, List.foldl_cons]

theorem anyOf_map (f : α → β) (as : List α) : anyOf (as.map f) = (anyOf as).map (·.map f) := by
  cases as with
  | nil => rfl
  | cons a as =>
    have hor : ∀ l r : Tree α, (or l r).map f = or (l.map f) (r.map f) := fun _ _ => rfl
    rw [List.map_cons, anyOf_cons, anyOf_cons, Option.map_some, map_foldl hor, List.map_map,
      List.map_map]
    rfl

theorem allOf_map (f : α → β) (ts : List (Tree α)) :
    allOf (ts.map (·.map f)) = (allOf ts).map f := by
  cases ts with
  | nil => rfl
  | cons t ts => exact (map_foldl (fun _ _ => rfl) t ts).symm

/-- Building a tree and replacing its leaves may change places. -/
theorem ofGroups_map (f : α → β) (groups : List (List α)) :
    ofGroups (groups.map (·.map f)) = (ofGroups groups).map f := by
  rw [ofGroups, ofGroups, ← allOf_map, List.filterMap_map, List.map_filterMap]
  congr 1
  exact List.filterMap_congr fun group _ => anyOf_map f group

/-! ## Shape -/

/-- The trees are joined from the left, the last one at the root. -/
inductive LeftNested (join : Tree α → Tree α → Tree α) : List (Tree α) → Tree α → Prop where
  | one (t : Tree α) : LeftNested join [t] t
  | more {ts : List (Tree α)} {l : Tree α} (r : Tree α) :
      LeftNested join ts l → LeftNested join (ts ++ [r]) (join l r)

/-- The tree is a left-nested conjunction with one left-nested disjunction of leaves for each list
that is not empty. Without any such list it is `always`. -/
def GroupedAs (groups : List (List α)) (t : Tree α) : Prop :=
  ∃ ds, List.Forall₂ (fun group d => LeftNested or (group.map leaf) d)
      (groups.filter fun group => !group.isEmpty) ds ∧
    (ds = [] ∧ t = always ∨ LeftNested and ds t)

theorem LeftNested.foldl {join : Tree α → Tree α → Tree α} {ts us : List (Tree α)} {l : Tree α}
    (h : LeftNested join ts l) : LeftNested join (ts ++ us) (us.foldl join l) := by
  induction us generalizing ts l with
  | nil => rwa [List.append_nil]
  | cons u us ih =>
    rw [List.append_cons]
    exact ih (h.more u)

theorem groupedAs_ofGroups (groups : List (List α)) : GroupedAs groups (ofGroups groups) := by
  refine ⟨groups.filterMap anyOf, ?_, ?_⟩
  · induction groups with
    | nil => exact .nil
    | cons group groups ih =>
      cases group with
      | nil => exact ih
      | cons a as => exact .cons (LeftNested.one (leaf a)).foldl ih
  · rw [ofGroups]
    cases groups.filterMap anyOf with
    | nil => exact Or.inl ⟨rfl, rfl⟩
    | cons d ds => exact Or.inr (LeftNested.one d).foldl

/-- Only a tree of groups without leaves is `always`. -/
theorem ofGroups_eq_always_iff (groups : List (List α)) :
    ofGroups groups = always ↔ groups.flatten = [] := by
  constructor
  · intro h
    rw [← leaves_ofGroups, h]
    rfl
  · intro h
    have hnone : groups.filterMap anyOf = [] := by
      rw [List.filterMap_eq_nil_iff]
      exact fun group hmem => anyOf_eq_none.mpr (List.flatten_eq_nil_iff.mp h group hmem)
    rw [ofGroups, hnone]
    rfl

end RowFilter.Tree
