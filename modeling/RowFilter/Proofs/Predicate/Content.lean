import Mathlib.Data.Finset.Basic
import Mathlib.Logic.Relation
import RowFilter.Proofs.Predicate.Refusal
import RowFilter.Proofs.Syntax.RoundTrip

/-!
# The content of a grouping

A filter is a list of lists, but its order says nothing, a repetition says nothing, and neither does
a group without alternatives or the place where a clause was read. What is left is the *content*, a
set of sets of clauses, and it decides everything that can be asked of a grouping without looking at
its trees: whether it compiles, which rows are accepted, which comparisons are made and which errors
are possible. The one thing that order decides is which of the possible errors comes first.

`Rearranged` lists the changes that a writer would call harmless. None of them changes the content,
so any number of them, in either direction, changes no answer (`compile_content`).
-/

set_option autoImplicit false

namespace RowFilter

/-! ## Sets of sets of clauses -/

/-- The alternatives as a set, no matter where they were read. -/
def OrGroup.content (group : OrGroup) : Finset Clause :=
  (group.alternatives.map Clause.withoutSpan).toFinset

/-- The groups that have alternatives, as a set. -/
def Grouping.content (g : Grouping) : Finset (Finset Clause) :=
  (g.groups.map OrGroup.content).toFinset.erase ∅

@[simp]
theorem Clause.withoutSpan_withoutSpan (c : Clause) : c.withoutSpan.withoutSpan = c.withoutSpan := rfl

namespace OrGroup

theorem mem_content {group : OrGroup} {c : Clause} :
    c ∈ group.content ↔ ∃ d ∈ group.alternatives, d.withoutSpan = c := by
  simp [content]

theorem content_eq_empty {group : OrGroup} : group.content = ∅ ↔ group.alternatives = [] := by
  simp [content]

@[simp]
theorem content_withoutSpans (group : OrGroup) : group.withoutSpans.content = group.content := by
  simp [content, withoutSpans, Function.comp_def]

/-- What does not look at spans holds of a clause of the content when it holds of an alternative. -/
theorem exists_mem_content {P : Clause → Prop} (hP : ∀ c, P c.withoutSpan ↔ P c)
    {group : OrGroup} : (∃ c ∈ group.content, P c) ↔ ∃ c ∈ group.alternatives, P c := by
  simp [mem_content, hP]

end OrGroup

namespace Grouping

variable {g h : Grouping}

theorem mem_content {S : Finset Clause} :
    S ∈ g.content ↔ S ≠ ∅ ∧ ∃ group ∈ g.groups, group.content = S := by
  simp [content]

/-- A condition with a clause for every set of the content is one with an alternative for every
group that has any. -/
theorem forall_mem_content {P : Clause → Prop} (hP : ∀ c, P c.withoutSpan ↔ P c) :
    (∀ S ∈ g.content, ∃ c ∈ S, P c) ↔
      ∀ group ∈ g.groups, group.alternatives ≠ [] → ∃ c ∈ group.alternatives, P c := by
  constructor
  · intro hall group hgroup hne
    have hmem : group.content ∈ g.content :=
      mem_content.mpr ⟨fun hempty => hne (OrGroup.content_eq_empty.mp hempty), group, hgroup, rfl⟩
    exact (OrGroup.exists_mem_content hP).mp (hall _ hmem)
  · intro hall S hS
    obtain ⟨hne, group, hgroup, rfl⟩ := mem_content.mp hS
    have hsome : group.alternatives ≠ [] := fun hnil => hne (OrGroup.content_eq_empty.mpr hnil)
    exact (OrGroup.exists_mem_content hP).mpr (hall group hgroup hsome)

theorem exists_mem_content {P : Clause → Prop} (hP : ∀ c, P c.withoutSpan ↔ P c) :
    (∃ S ∈ g.content, ∃ c ∈ S, P c) ↔ ∃ c ∈ g.clauses, P c := by
  constructor
  · intro hex
    obtain ⟨S, hS, hc⟩ := hex
    obtain ⟨-, group, hgroup, rfl⟩ := mem_content.mp hS
    obtain ⟨c, hc, hPc⟩ := (OrGroup.exists_mem_content hP).mp hc
    exact ⟨c, List.mem_flatMap.mpr ⟨group, hgroup, hc⟩, hPc⟩
  · intro hex
    obtain ⟨c, hc, hPc⟩ := hex
    obtain ⟨group, hgroup, hc⟩ := List.mem_flatMap.mp hc
    have hne : group.content ≠ ∅ := by
      intro hempty
      rw [OrGroup.content_eq_empty.mp hempty] at hc
      exact absurd hc List.not_mem_nil
    exact ⟨_, mem_content.mpr ⟨hne, group, hgroup, rfl⟩,
      (OrGroup.exists_mem_content hP).mpr ⟨c, hc, hPc⟩⟩

/-- Groupings of one content have the same clauses for all that does not look at spans. -/
theorem exists_mem_clauses_congr {P : Clause → Prop} (hP : ∀ c, P c.withoutSpan ↔ P c)
    (hcontent : g.content = h.content) : (∃ c ∈ g.clauses, P c) ↔ ∃ c ∈ h.clauses, P c := by
  rw [← exists_mem_content hP, hcontent, exists_mem_content hP]

/-! ## Harmless changes -/

/-- The second grouping is the first one after a change that keeps its content. -/
inductive Rearranged : Grouping → Grouping → Prop
  | groups {gs hs : List OrGroup} : gs.Perm hs → Rearranged ⟨gs⟩ ⟨hs⟩
  | alternatives {before after : List OrGroup} {cs ds : List Clause} : cs.Perm ds →
      Rearranged ⟨before ++ ⟨cs⟩ :: after⟩ ⟨before ++ ⟨ds⟩ :: after⟩
  | repeatGroup {gs : List OrGroup} {group : OrGroup} : group ∈ gs → Rearranged ⟨gs⟩ ⟨group :: gs⟩
  | repeatClause {before after : List OrGroup} {c : Clause} {cs : List Clause} : c ∈ cs →
      Rearranged ⟨before ++ ⟨cs⟩ :: after⟩ ⟨before ++ ⟨c :: cs⟩ :: after⟩
  | emptyGroup {gs : List OrGroup} : Rearranged ⟨gs⟩ ⟨⟨[]⟩ :: gs⟩
  | spans {g h : Grouping} : g.withoutSpans = h.withoutSpans → Rearranged g h

theorem content_withoutSpans (g : Grouping) : g.withoutSpans.content = g.content := by
  simp [content, withoutSpans, Function.comp_def]

theorem content_replace {before after : List OrGroup} {a b : OrGroup} (hab : a.content = b.content) :
    content ⟨before ++ a :: after⟩ = content ⟨before ++ b :: after⟩ := by
  simp [content, hab]

theorem Rearranged.content_eq (hgh : g.Rearranged h) : g.content = h.content := by
  cases hgh with
  | groups hperm =>
    have hsets := List.toFinset_eq_of_perm _ _ (hperm.map OrGroup.content)
    simp only [content, hsets]
  | alternatives hperm =>
    apply content_replace
    exact List.toFinset_eq_of_perm _ _ (hperm.map Clause.withoutSpan)
  | repeatGroup hmem =>
    have hin := List.mem_toFinset.mpr (List.mem_map_of_mem (f := OrGroup.content) hmem)
    simp only [content, List.map_cons, List.toFinset_cons, Finset.insert_eq_of_mem hin]
  | repeatClause hmem =>
    apply content_replace
    have hin := List.mem_toFinset.mpr (List.mem_map_of_mem (f := Clause.withoutSpan) hmem)
    simp only [OrGroup.content, List.map_cons, List.toFinset_cons, Finset.insert_eq_of_mem hin]
  | emptyGroup => simp [content, OrGroup.content]
  | spans hspans => rw [← content_withoutSpans g, hspans, content_withoutSpans]

/-- Any number of changes, made or undone, keeps the content. -/
theorem content_eq_of_rearranged (hgh : Relation.EqvGen Rearranged g h) : g.content = h.content := by
  induction hgh with
  | rel g h hstep => exact hstep.content_eq
  | refl g => rfl
  | symm g h _ ih => exact ih.symm
  | trans g h k _ _ ih ih' => exact ih.trans ih'

end Grouping

/-! ## What the content decides -/

namespace Predicate

variable {τ : Type} {Row : τ → Type} {catalog : Catalog Row} {t : τ} {g h : Grouping}

/-- The span of a clause goes nowhere. -/
theorem compileClause_withoutSpan (s : Schema Row) (c : Clause) :
    compileClause catalog s c.withoutSpan = compileClause catalog s c := rfl

theorem fits_withoutSpan {s : Schema Row} (c : Clause) :
    c.withoutSpan.Fits catalog s ↔ c.Fits catalog s := by
  rw [← Clause.exists_compileClause_iff, compileClause_withoutSpan, Clause.exists_compileClause_iff]

theorem passes_withoutSpan {row : Row t} (c : Clause) :
    Passes catalog row c.withoutSpan ↔ Passes catalog row c := by
  simp only [Passes, ← compileClause_eq_ok, compileClause_withoutSpan]

theorem exists_compile_iff :
    (∃ p, compile catalog t g = .ok p) ↔ ¬ ∃ c ∈ g.clauses, ¬ c.Fits catalog (catalog t) := by
  rw [exists_eq_ok_congr fun e => compile_eq_error, exists_mapM_eq_ok]
  simp only [Clause.exists_compileClause_iff, not_exists, not_and, not_not]

/-- The comparisons of a predicate are those of the clauses. -/
theorem mem_leaves_iff {p : Predicate Row t} (compiled : compile catalog t g = .ok p)
    {k : Comparison} :
    k ∈ p.expression.leaves ↔
      ∃ c ∈ g.clauses, ∃ b, compileClause catalog (catalog t) c = .ok b ∧ b.1 = k := by
  obtain ⟨bound, hbound, hexpression, -⟩ := compile_eq_ok.mp compiled
  rw [hexpression, Tree.leaves_map, Tree.leaves_ofGroups, List.mem_map]
  constructor
  · intro hk
    obtain ⟨b, hb, hbk⟩ := hk
    obtain ⟨c, hc, hcb⟩ := exists_of_mem_forall₂ hbound.clauses.flip hb
    exact ⟨c, hc, b, compileClause_eq_ok.mpr hcb, hbk⟩
  · intro hk
    obtain ⟨c, hc, b, hcb, hbk⟩ := hk
    obtain ⟨b', hb', hcb'⟩ := exists_of_mem_forall₂ hbound.clauses hc
    have heq := hcb.symm.trans (compileClause_eq_ok.mpr hcb')
    cases heq
    exact ⟨b, hb', hbk⟩

theorem accepts_iff_content {p : Predicate Row t} (compiled : compile catalog t g = .ok p)
    (row : Row t) : p.accepts row = true ↔ ∀ S ∈ g.content, ∃ c ∈ S, Passes catalog row c := by
  rw [accepts_iff_passes compiled, Grouping.forall_mem_content passes_withoutSpan]

/-- The groupings compile both or not at all. If they do, the predicates differ at most in the shape
of their trees, and if they do not, at most in which of the same misfits comes first. -/
structure CompiledTogether (catalog : Catalog Row) (t : τ) (g h : Grouping) : Prop where
  compiles : (∃ p, compile catalog t g = .ok p) ↔ ∃ q, compile catalog t h = .ok q
  accepts : ∀ p q, compile catalog t g = .ok p → compile catalog t h = .ok q →
    ∀ row, p.accepts row = q.accepts row
  comparisons : ∀ p q, compile catalog t g = .ok p → compile catalog t h = .ok q →
    ∀ k, k ∈ p.expression.leaves ↔ k ∈ q.expression.leaves
  /-- The error of either is that of a clause of the other. -/
  error : ∀ e, compile catalog t g = .error e ∨ compile catalog t h = .error e →
    (∃ c ∈ g.clauses, c.RefusedWith catalog (catalog t) e) ∧
    ∃ c ∈ h.clauses, c.RefusedWith catalog (catalog t) e

theorem exists_refused_of_compile {e : CompileError} (herror : compile catalog t g = .error e) :
    ∃ c ∈ g.clauses, c.RefusedWith catalog (catalog t) e := by
  obtain ⟨before, c, after, hclauses, -, hc⟩ := mapM_eq_error.mp (compile_eq_error.mp herror)
  exact ⟨c, by simp [hclauses], Clause.compileClause_eq_error.mp hc⟩

theorem compiledTogether_of_content_eq (hcontent : g.content = h.content) :
    CompiledTogether catalog t g h where
  compiles := by
    rw [exists_compile_iff, exists_compile_iff]
    exact not_congr (Grouping.exists_mem_clauses_congr
      (fun c => not_congr (fits_withoutSpan c)) hcontent)
  accepts := by
    intro p q hp hq row
    rw [Bool.eq_iff_iff, accepts_iff_content hp, accepts_iff_content hq, hcontent]
  comparisons := by
    intro p q hp hq k
    rw [mem_leaves_iff hp, mem_leaves_iff hq]
    exact Grouping.exists_mem_clauses_congr (fun c => Iff.rfl) hcontent
  error := by
    intro e herror
    have hrefused : (∃ c ∈ g.clauses, c.RefusedWith catalog (catalog t) e) ↔
        ∃ c ∈ h.clauses, c.RefusedWith catalog (catalog t) e := by
      simp only [← Clause.compileClause_eq_error]
      exact Grouping.exists_mem_clauses_congr (fun c => Iff.rfl) hcontent
    cases herror with
    | inl hg => exact ⟨exists_refused_of_compile hg, hrefused.mp (exists_refused_of_compile hg)⟩
    | inr hh => exact ⟨hrefused.mpr (exists_refused_of_compile hh), exists_refused_of_compile hh⟩

/-- **Only the content of a grouping counts.** Groupings of one content compile together and accept
the same rows. Putting groups or alternatives into another order, repeating them, adding groups
without alternatives and moving spans, any number of times, keep the content. -/
theorem compile_content (catalog : Catalog Row) (t : τ) :
    (∀ g h : Grouping, g.content = h.content → CompiledTogether catalog t g h) ∧
    ∀ g h : Grouping, Relation.EqvGen Grouping.Rearranged g h →
      g.content = h.content ∧ CompiledTogether catalog t g h := by
  refine ⟨fun g h => compiledTogether_of_content_eq, fun g h hgh => ?_⟩
  have hcontent := Grouping.content_eq_of_rearranged hgh
  exact ⟨hcontent, compiledTogether_of_content_eq hcontent⟩

/-- The groups and the alternatives are in the other order, one clause stands twice, at another place
of the text, and the empty group is gone. -/
theorem compile_content_neighbours :
    People.neighbours.content = People.neighboursShuffled.content ∧
    CompiledTogether People.catalog .person People.neighbours People.neighboursShuffled := by
  have hcontent : People.neighbours.content = People.neighboursShuffled.content := by
    decide +kernel
  exact ⟨hcontent, (compile_content People.catalog .person).1 _ _ hcontent⟩

end Predicate
end RowFilter
