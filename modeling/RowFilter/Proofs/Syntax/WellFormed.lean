import Mathlib.Data.List.Infix
import RowFilter.Proofs.Syntax.ClauseText
import RowFilter.Proofs.Syntax.Reading

/-!
# Well-formed groupings

A grouping is *well formed* when it has a group, no group is empty, and no clause has a part that
its text would not show: the path and the operator are words, and no part holds a separator. A
grouping that is made by hand need not be. One that has been read always is, whatever the text: a
separator inside a part would have cut the part in two.
-/

set_option autoImplicit false

namespace RowFilter

namespace Piece

variable {sep sep' : List Char} {p q r : Piece}

theorem not_infix_of_mem_split (hsep : sep ≠ []) (hq : q ∈ p.split sep) : ¬ sep <:+: q.text := by
  have htext := List.mem_map_of_mem (f := Piece.text) hq
  rw [map_text_split] at htext
  exact Text.not_infix_of_mem_splitAround hsep htext

theorem infix_of_mem_split (hsep : sep ≠ []) (hq : q ∈ p.split sep) : q.text <:+: p.text := by
  have htext := List.mem_map_of_mem (f := Piece.text) hq
  rw [map_text_split] at htext
  exact Text.infix_of_mem_splitAround hsep htext

/-- A piece of a piece holds neither of the separators. -/
theorem not_infix_of_mem_split_split (hsep : sep ≠ []) (hsep' : sep' ≠ []) (hq : q ∈ p.split sep)
    (hr : r ∈ q.split sep') : ¬ sep <:+: r.text ∧ ¬ sep' <:+: r.text :=
  ⟨fun h => not_infix_of_mem_split hsep hq (h.trans (infix_of_mem_split hsep' hr)),
    not_infix_of_mem_split hsep' hr⟩

end Piece

namespace Grouping

/-- Neither separator stands in the text. -/
def SeparatorFree (s : List Char) : Prop := ¬ andSeparator <:+: s ∧ ¬ orSeparator <:+: s

instance (s : List Char) : Decidable (SeparatorFree s) := by unfold SeparatorFree; infer_instance

theorem SeparatorFree.mono {s t : List Char} (h : SeparatorFree t) (hst : s <:+: t) :
    SeparatorFree s :=
  ⟨fun hin => h.1 (hin.trans hst), fun hin => h.2 (hin.trans hst)⟩

theorem marked_andSeparator : Text.Marked andSeparator := ⟨'_', ['A', 'n', 'd'], rfl, by decide⟩

theorem marked_orSeparator : Text.Marked orSeparator := ⟨'_', ['O', 'r'], rfl, by decide⟩

theorem apart_separators : Text.Apart andSeparator orSeparator :=
  ⟨'_', 'A', 'O', ['n', 'd'], ['r'], rfl, rfl, by decide, by decide, by decide⟩

/-- No piece of a filter holds a separator. -/
theorem separatorFree_of_mem_pieces {src : List Char} {ps : List Piece} {p : Piece}
    (hps : ps ∈ pieces src) (hp : p ∈ ps) : SeparatorFree p.text := by
  obtain ⟨q, hq, rfl⟩ := List.mem_map.mp hps
  exact Piece.not_infix_of_mem_split_split (by decide) (by decide) hq hp

end Grouping

open Grouping (SeparatorFree)

/-- The path and the operator are words, the path is the one that its text shows, and no part
holds a separator. The literal may hold everything else. -/
structure Clause.WellFormed (c : Clause) : Prop where
  path : c.path.Plain
  operator : Clause.IsWord c.operator.toList
  path_free : SeparatorFree c.path.toString.toList
  operator_free : SeparatorFree c.operator.toList
  literal_free : SeparatorFree c.literal.toList

instance (c : Clause) : Decidable c.WellFormed :=
  decidable_of_iff
    (c.path.Plain ∧ Clause.IsWord c.operator.toList ∧ SeparatorFree c.path.toString.toList ∧
      SeparatorFree c.operator.toList ∧ SeparatorFree c.literal.toList)
    ⟨fun ⟨hp, ho, hpf, hof, hlf⟩ => ⟨hp, ho, hpf, hof, hlf⟩,
      fun ⟨hp, ho, hpf, hof, hlf⟩ => ⟨hp, ho, hpf, hof, hlf⟩⟩

/-- There is a group, no group is empty, and the clauses are well formed. -/
structure Grouping.WellFormed (g : Grouping) : Prop where
  groups_ne_nil : g.groups ≠ []
  alternatives_ne_nil : ∀ group ∈ g.groups, group.alternatives ≠ []
  clauses : ∀ group ∈ g.groups, ∀ c ∈ group.alternatives, c.WellFormed

instance (g : Grouping) : Decidable g.WellFormed :=
  decidable_of_iff
    (g.groups ≠ [] ∧ (∀ group ∈ g.groups, group.alternatives ≠ []) ∧
      ∀ group ∈ g.groups, ∀ c ∈ group.alternatives, c.WellFormed)
    ⟨fun ⟨hg, ha, hc⟩ => ⟨hg, ha, hc⟩, fun ⟨hg, ha, hc⟩ => ⟨hg, ha, hc⟩⟩

theorem Clause.wellFormed_of_read {p : Piece} {c : Clause} (hp : SeparatorFree p.text)
    (h : read p = .ok c) : c.WellFormed := by
  obtain ⟨hpath, hoperator, hin, hin', hin''⟩ := of_read h
  exact ⟨hpath, hoperator, hp.mono hin, hp.mono hin', hp.mono hin''⟩

/-- **What has been read is well formed.** -/
theorem Grouping.wellFormed_of_parse {options : ParseOptions} {src : String} {g : Grouping}
    (hne : src ≠ "") (h : parse options src = .ok g) : g.WellFormed := by
  obtain ⟨hgroups, halternatives⟩ := alternatives_ne_nil_of_parse hne h
  refine ⟨hgroups, halternatives, fun group hgroup c hc => ?_⟩
  obtain ⟨ps, hps, hread⟩ := exists_of_mem_forall₂ (readFrom_of_parse hne h).flip hgroup
  obtain ⟨p, hp, hpc⟩ := exists_of_mem_forall₂ (List.Forall₂.flip hread) hc
  exact Clause.wellFormed_of_read (separatorFree_of_mem_pieces hps hp) hpc

/-- A text with a clause in it is not empty. -/
theorem Grouping.ne_empty_of_mem_clauses {options : ParseOptions} {src : String} {g : Grouping}
    {c : Clause} (h : parse options src = .ok g) (hc : c ∈ g.clauses) : src ≠ "" :=
  fun hempty => List.ne_nil_of_mem hc ((clauses_eq_nil_iff_of_parse h).mpr hempty)

theorem Grouping.clause_wellFormed_of_parse {options : ParseOptions} {src : String} {g : Grouping}
    {c : Clause} (h : parse options src = .ok g) (hc : c ∈ g.clauses) : c.WellFormed := by
  obtain ⟨group, hgroup, hmem⟩ := List.mem_flatMap.mp hc
  exact (wellFormed_of_parse (ne_empty_of_mem_clauses h hc) h).clauses group hgroup c hmem

end RowFilter
