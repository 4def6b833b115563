/-!
# Boolean trees

Conjunctions and disjunctions of leaves of any type. A filter has two such trees of one shape, one
with comparisons for a reader and one with tests for rows, and the shape is made here, once for
both.
-/

set_option autoImplicit false

namespace RowFilter

/-- A combination of leaves with "and" and "or". -/
inductive Tree (α : Type) where
  /-- Holds of everything. -/
  | always
  | leaf (a : α)
  | and (left right : Tree α)
  | or (left right : Tree α)
  deriving DecidableEq, Repr, Inhabited

namespace Tree

variable {α β : Type}

def map (f : α → β) : Tree α → Tree β
  | always => always
  | leaf a => leaf (f a)
  | and l r => and (l.map f) (r.map f)
  | or l r => or (l.map f) (r.map f)

def leaves : Tree α → List α
  | always => []
  | leaf a => [a]
  | and l r => l.leaves ++ r.leaves
  | or l r => l.leaves ++ r.leaves

def count : Tree α → Nat
  | always => 0
  | leaf _ => 1
  | and l r => l.count + r.count
  | or l r => l.count + r.count

/-- Is the tree true, if `holds` says which leaves are? -/
def eval (holds : α → Bool) : Tree α → Bool
  | always => true
  | leaf a => holds a
  | and l r => l.eval holds && r.eval holds
  | or l r => l.eval holds || r.eval holds

/-- Joins trees from the left, two at a time. Without trees there is nothing to join. -/
def joinLeft (join : Tree α → Tree α → Tree α) : List (Tree α) → Option (Tree α)
  | [] => none
  | t :: ts => some (ts.foldl join t)

/-- The disjunction of leaves, if there are any. -/
def anyOf (leaves : List α) : Option (Tree α) := joinLeft or (leaves.map leaf)

/-- The conjunction of trees, true without any. -/
def allOf (trees : List (Tree α)) : Tree α := (joinLeft and trees).getD always

/-- The conjunction of the disjunctions of the lists that are not empty. -/
def ofGroups (groups : List (List α)) : Tree α := allOf (groups.filterMap anyOf)

/-! ## Laws of replacing leaves -/

theorem leaves_map (f : α → β) (t : Tree α) : (t.map f).leaves = t.leaves.map f := by
  induction t with
  | always | leaf a => rfl
  | and l r ihl ihr | or l r ihl ihr => simp [map, leaves, ihl, ihr]

theorem eval_map (f : α → β) (holds : β → Bool) (t : Tree α) :
    (t.map f).eval holds = t.eval fun a => holds (f a) := by
  induction t with
  | always | leaf a => rfl
  | and l r ihl ihr | or l r ihl ihr => simp [map, eval, ihl, ihr]

theorem count_eq_length_leaves (t : Tree α) : t.count = t.leaves.length := by
  induction t with
  | always | leaf a => rfl
  | and l r ihl ihr | or l r ihl ihr => simp [count, leaves, ihl, ihr]

end Tree
end RowFilter
