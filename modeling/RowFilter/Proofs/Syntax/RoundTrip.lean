import RowFilter.Proofs.Syntax.WellFormed
import RowFilter.Proofs.Text.Padding

/-!
# Reading undoes writing

The written form of a well-formed grouping is read as the grouping again, up to spans, and what has
been read is well formed, so that every filter has a normal form with all literals quoted. For a
caller who puts a text of a user between the quotes the condition is exact: the clause stays one
clause, with that text as its literal, unless the text holds a separator.
-/

set_option autoImplicit false

namespace RowFilter

open Grouping (SeparatorFree)

/-! ## Up to spans -/

/-- The clause, no matter where it was read. -/
def Clause.withoutSpan (c : Clause) : Clause := { c with span := default }

/-- The alternatives, no matter where they were read. -/
def OrGroup.withoutSpans (g : OrGroup) : OrGroup := ⟨g.alternatives.map Clause.withoutSpan⟩

/-- The grouping, no matter where its clauses were read. -/
def Grouping.withoutSpans (g : Grouping) : Grouping := ⟨g.groups.map OrGroup.withoutSpans⟩

theorem Grouping.clauses_withoutSpans (g : Grouping) :
    g.withoutSpans.clauses = g.clauses.map Clause.withoutSpan := by
  unfold clauses withoutSpans
  rw [List.flatMap_map, List.map_flatMap]
  rfl

/-! ## Separators in a written form -/

/-- A text without blanks and quotes stands in a written clause when it stands in a part of it. -/
theorem Clause.infix_written_iff {sep : List Char} (hne : sep ≠ []) (hspace : ' ' ∉ sep)
    (hquote : quote ∉ sep) (c : Clause) :
    sep <:+: c.written.toList ↔
      sep <:+: c.path.toString.toList ∨ sep <:+: c.operator.toList ∨ sep <:+: c.literal.toList := by
  rw [toList_written]
  constructor
  · intro h
    rcases Text.infix_or_infix_of_not_mem hspace h with h | h
    · exact Or.inl h
    rcases Text.infix_or_infix_of_not_mem hspace h with h | h
    · exact Or.inr (Or.inl h)
    rcases Text.infix_or_infix_of_not_mem (p := []) hquote h with h | h
    · exact absurd (List.infix_nil.mp h) hne
    rcases Text.infix_or_infix_of_not_mem hquote h with h | h
    · exact Or.inr (Or.inr h)
    · exact absurd (List.infix_nil.mp h) hne
  · rintro (h | h | h)
    · exact List.infix_append_of_infix_left h
    · exact h.trans ⟨c.path.toString.toList ++ [' '], ' ' :: quote :: (c.literal.toList ++ [quote]),
        by simp⟩
    · exact h.trans ⟨c.path.toString.toList ++ ' ' :: (c.operator.toList ++ [' ', quote]), [quote],
        by simp⟩

theorem Clause.separatorFree_written_iff (c : Clause) :
    SeparatorFree c.written.toList ↔ SeparatorFree c.path.toString.toList ∧
      SeparatorFree c.operator.toList ∧ SeparatorFree c.literal.toList := by
  unfold Grouping.SeparatorFree
  rw [infix_written_iff Grouping.marked_andSeparator.ne_nil (by decide) (by decide),
    infix_written_iff Grouping.marked_orSeparator.ne_nil (by decide) (by decide)]
  tauto

theorem OrGroup.toList_written (g : OrGroup) :
    g.written.toList = (' ' :: (Grouping.orSeparator ++ [' '])).intercalate
      (g.alternatives.map (·.written.toList)) := by
  unfold written
  rw [String.toList_intercalate, List.map_map]
  rfl

theorem Grouping.toList_written (g : Grouping) :
    g.written.toList = (' ' :: (andSeparator ++ [' '])).intercalate
      (g.groups.map (·.written.toList)) := by
  unfold written
  rw [String.toList_intercalate, List.map_map]
  rfl

/-! ## The pieces of a written form -/

theorem Clause.WellFormed.written_free {c : Clause} (hc : c.WellFormed) :
    SeparatorFree c.written.toList :=
  (separatorFree_written_iff c).mpr ⟨hc.path_free, hc.operator_free, hc.literal_free⟩

/-- A written group is split into its written alternatives, with blanks around them. -/
theorem OrGroup.splitAround_written {group : OrGroup} (hne : group.alternatives ≠ [])
    (hwf : ∀ c ∈ group.alternatives, c.WellFormed) {s : List Char}
    (hs : Text.Padded group.written.toList s) :
    List.Forall₂ (fun c t => Text.Padded c.written.toList t) group.alternatives
      (Text.splitAround Grouping.orSeparator s) := by
  rw [toList_written] at hs
  rw [← List.forall₂_map_left_iff (f := fun c : Clause => c.written.toList)]
  refine Text.splitAround_padded Grouping.marked_orSeparator (by decide) (by simp [hne]) ?_ hs
  intro text htext
  obtain ⟨c, hc, rfl⟩ := List.mem_map.mp htext
  exact (hwf c hc).written_free.2

/-- The separators of alternatives make no separator of groups. -/
theorem OrGroup.written_free {group : OrGroup} (hne : group.alternatives ≠ [])
    (hwf : ∀ c ∈ group.alternatives, c.WellFormed) :
    ¬ Grouping.andSeparator <:+: group.written.toList := by
  have hsplit := splitAround_written hne hwf (Text.Padded.refl group.written.toList)
  rw [← Text.intercalate_splitAround Grouping.marked_orSeparator.ne_nil group.written.toList]
  refine Text.not_infix_intercalate Grouping.apart_separators fun t ht hin => ?_
  obtain ⟨c, hc, hct⟩ := exists_of_mem_forall₂ hsplit.flip ht
  have hiff := Text.Padded.infix_iff Grouping.marked_andSeparator.ne_nil (by decide) hct
  exact (hwf c hc).written_free.1 (hiff.mp hin)

namespace Grouping

/-- The pieces of a written grouping are its written clauses, with blanks around them. -/
theorem WellFormed.pieces_written {g : Grouping} (hg : g.WellFormed) :
    List.Forall₂
      (fun group ps =>
        List.Forall₂ (fun c p => Text.Padded c.written.toList p.text) group.alternatives ps)
      g.groups (pieces g.written.toList) := by
  have hsplit : List.Forall₂ (fun group s => Text.Padded (OrGroup.written group).toList s) g.groups
      (Text.splitAround andSeparator g.written.toList) := by
    rw [← List.forall₂_map_left_iff (f := fun group => (OrGroup.written group).toList)]
    refine Text.splitAround_padded marked_andSeparator (by decide) (by simp [hg.groups_ne_nil]) ?_ ?_
    · intro text htext
      obtain ⟨group, hgroup, rfl⟩ := List.mem_map.mp htext
      exact OrGroup.written_free (hg.alternatives_ne_nil group hgroup) (hg.clauses group hgroup)
    · rw [toList_written]
      exact Text.Padded.refl _
  unfold pieces
  rw [List.forall₂_map_right_iff]
  have hgroups := Piece.forall₂_split_iff (p := ⟨0, g.written.toList⟩).mpr hsplit
  refine forall₂_imp_of_mem hgroups fun group hgroup q hq => ?_
  exact Piece.forall₂_split_iff.mpr (OrGroup.splitAround_written
    (hg.alternatives_ne_nil group hgroup) (hg.clauses group hgroup) hq)

/-! ## Reading a written form -/

theorem WellFormed.written_visible {g : Grouping} (hg : g.WellFormed) :
    Text.allBlank g.written.toList = false := by
  obtain ⟨group, groups, hgroups⟩ := List.exists_cons_of_ne_nil hg.groups_ne_nil
  have hgroup : group ∈ g.groups := by simp [hgroups]
  obtain ⟨c, cs, hcs⟩ := List.exists_cons_of_ne_nil (hg.alternatives_ne_nil group hgroup)
  have hc : c ∈ group.alternatives := by simp [hcs]
  have hquote : Clause.quote ∈ c.written.toList := by simp [Clause.toList_written]
  have hcgroup : c.written.toList <:+: group.written.toList := by
    rw [OrGroup.toList_written]
    exact Text.infix_intercalate_of_mem (List.mem_map_of_mem hc)
  have hgroupg : group.written.toList <:+: g.written.toList := by
    rw [toList_written]
    exact Text.infix_intercalate_of_mem (List.mem_map_of_mem hgroup)
  have hmem : Clause.quote ∈ g.written.toList := hgroupg.mem (hcgroup.mem hquote)
  rw [← Bool.not_eq_true, Text.allBlank, List.all_eq_true]
  exact fun hall => absurd (hall _ hmem) (by decide)

/-- **Reading undoes writing**, up to spans. -/
theorem WellFormed.exists_parse {g : Grouping} (hg : g.WellFormed) :
    ∃ h, parse {} g.written = .ok h ∧ h.withoutSpans = g.withoutSpans := by
  have hclause : ∀ c : Clause, c.WellFormed → ∀ p : Piece, Text.Padded c.written.toList p.text →
      ∃ c', Clause.read p = .ok c' ∧ c'.withoutSpan = c.withoutSpan := by
    intro c hc p ⟨u, v, hu, hv, htext⟩
    exact ⟨_, Clause.read_written hc.path hc.operator hu hv htext, rfl⟩
  have hresults : ∃ groups, ReadFrom (pieces g.written.toList) groups ∧
      groups.map OrGroup.withoutSpans = g.groups.map OrGroup.withoutSpans := by
    refine exists_forall₂_map (forall₂_imp_of_mem hg.pieces_written ?_)
    intro group hgroup ps hps
    obtain ⟨cs, hread, hspans⟩ := exists_forall₂_map (forall₂_imp_of_mem hps fun c hc =>
      hclause c (hg.clauses group hgroup c hc))
    exact ⟨⟨cs⟩, hread, congrArg OrGroup.mk hspans⟩
  obtain ⟨groups, hread, hspans⟩ := hresults
  exact ⟨⟨groups⟩, parse_of_readFrom hg.written_visible hread, congrArg Grouping.mk hspans⟩

/-! ## A filter of one clause -/

theorem eq_text_of_pieces {src : List Char} {p : Piece} (h : pieces src = [[p]]) :
    src = p.text := by
  obtain ⟨q, hq, hp⟩ := List.map_eq_singleton_iff.mp h
  have hqtext := congrArg (List.map Piece.text) hq
  have hptext := congrArg (List.map Piece.text) hp
  rw [Piece.map_text_split] at hqtext hptext
  have hsrc : src = q.text :=
    Text.eq_of_splitAround_eq_singleton marked_andSeparator.ne_nil hqtext
  rw [hsrc]
  exact Text.eq_of_splitAround_eq_singleton marked_orSeparator.ne_nil hptext

theorem groups_eq_of_clauses_eq {g : Grouping} {c : Clause}
    (hne : g.groups ≠ [] ∧ ∀ group ∈ g.groups, group.alternatives ≠ []) (hone : g.clauses = [c]) :
    g.groups = [⟨[c]⟩] := by
  obtain ⟨group, groups, hgroups⟩ := List.exists_cons_of_ne_nil hne.1
  have hfirst := hne.2 group (by simp [hgroups])
  unfold clauses at hone
  rw [hgroups, List.flatMap_cons] at hone
  rcases List.append_eq_singleton_iff.mp hone with ⟨hnil, -⟩ | ⟨hgroup, hrest⟩
  · exact absurd hnil hfirst
  · -- A second group would have a second clause.
    have hlater : groups = [] := by
      refine List.eq_nil_iff_forall_not_mem.mpr fun group' hgroup' => ?_
      exact hne.2 group' (by simp [hgroups, hgroup']) (List.flatMap_eq_nil_iff.mp hrest _ hgroup')
    rw [hgroups, hlater, ← hgroup]

/-- A text that is read as one clause holds no separator. -/
theorem separatorFree_of_parse {options : ParseOptions} {src : String} {g : Grouping} {c : Clause}
    (h : parse options src = .ok g) (hone : g.clauses = [c]) : SeparatorFree src.toList := by
  have hne : src ≠ "" := by
    intro hempty
    rw [(clauses_eq_nil_iff_of_parse h).mpr hempty] at hone
    cases hone
  have hread := readFrom_of_parse hne h
  rw [groups_eq_of_clauses_eq (alternatives_ne_nil_of_parse hne h) hone] at hread
  obtain ⟨ps, later, hps, hlater, hpieces⟩ := List.forall₂_cons_right_iff.mp hread
  obtain ⟨p, ps', -, hps', rfl⟩ := List.forall₂_cons_right_iff.mp hps
  rw [List.forall₂_nil_right_iff.mp hlater, List.forall₂_nil_right_iff.mp hps'] at hpieces
  have hmem : [p] ∈ pieces src.toList := by simp [hpieces]
  rw [eq_text_of_pieces hpieces]
  exact separatorFree_of_mem_pieces hmem List.mem_cons_self

/-- A written clause that is read as one clause has a literal without separators. -/
theorem literal_free_of_parse {options : ParseOptions} {c c' : Clause} {g : Grouping}
    (h : parse options c.written = .ok g) (hone : g.clauses = [c']) :
    SeparatorFree c.literal.toList :=
  ((Clause.separatorFree_written_iff c).mp (separatorFree_of_parse h hone)).2.2

/-- A well-formed clause is read back from its written form, as the only clause. -/
theorem exists_parse_clause {c : Clause} (hc : c.WellFormed) :
    ∃ g c', parse {} c.written = .ok g ∧ g.clauses = [c'] ∧ c'.withoutSpan = c.withoutSpan := by
  have hg : WellFormed ⟨[⟨[c]⟩]⟩ := ⟨by simp, by simp, by simpa using hc⟩
  obtain ⟨g, h, hspans⟩ := hg.exists_parse
  have hclauses := congrArg clauses hspans
  rw [clauses_withoutSpans, clauses_withoutSpans] at hclauses
  obtain ⟨c', hone, hc'⟩ := List.map_eq_singleton_iff.mp hclauses
  exact ⟨g, c', h, hone, hc'⟩

/-- **Reading undoes writing, and quotes protect a literal exactly from all but separators.** A
well-formed grouping is read from its written form. What is read from a text that is not empty is
well formed, so its written form is a text for the same grouping. A clause that is written around
any literal stays one clause if and only if the literal holds no separator, and then the literal is
read back as it is. -/
theorem parse_written :
    (∀ g : Grouping, g.WellFormed →
      ∃ h, parse {} g.written = .ok h ∧ h.withoutSpans = g.withoutSpans) ∧
    (∀ (options : ParseOptions) (src : String) (g : Grouping), src ≠ "" →
      parse options src = .ok g →
      g.WellFormed ∧ ∃ h, parse {} g.written = .ok h ∧ h.withoutSpans = g.withoutSpans) ∧
    ∀ (path : Path) (operator literal : String), path.Plain → Clause.IsWord operator.toList →
      SeparatorFree path.toString.toList → SeparatorFree operator.toList →
      let written := (⟨path, operator, literal, default⟩ : Clause).written
      ((∃ g c, parse {} written = .ok g ∧ g.clauses = [c]) ↔ SeparatorFree literal.toList) ∧
      ∀ g c, parse {} written = .ok g → g.clauses = [c] →
        c.path = path ∧ c.operator = operator ∧ c.literal = literal := by
  refine ⟨fun g hg => hg.exists_parse, fun options src g hne h => ?_, ?_⟩
  · have hg := wellFormed_of_parse hne h
    exact ⟨hg, hg.exists_parse⟩
  · intro path operator literal hpath hoperator hpathfree hoperatorfree written
    have hread : SeparatorFree literal.toList → ∃ g c, parse {} written = .ok g ∧
        g.clauses = [c] ∧ c.withoutSpan = ⟨path, operator, literal, default⟩ := by
      intro hliteral
      exact exists_parse_clause ⟨hpath, hoperator, hpathfree, hoperatorfree, hliteral⟩
    refine ⟨⟨?_, ?_⟩, ?_⟩
    · rintro ⟨g, c, h, hone⟩
      exact literal_free_of_parse h hone
    · intro hliteral
      obtain ⟨g, c, h, hone, -⟩ := hread hliteral
      exact ⟨g, c, h, hone⟩
    · intro g c h hone
      -- The literal holds no separator, so the clause is the one of the round trip.
      obtain ⟨g', c', h', hone', hc'⟩ := hread (literal_free_of_parse h hone)
      obtain rfl : g = g' := Except.ok.inj (h.symm.trans h')
      obtain rfl : c = c' := List.singleton_inj.mp (hone.symm.trans hone')
      exact ⟨congrArg Clause.path hc', congrArg Clause.operator hc', congrArg Clause.literal hc'⟩

/-- Two groups, with a literal that looks like more of the filter. -/
def likeness : Grouping :=
  ⟨[⟨[⟨⟨["Name"]⟩, "cn", "O'Hara' _and Age gt '5", default⟩, ⟨⟨["Age"]⟩, "lt", "", default⟩]⟩,
    ⟨[⟨⟨["Address", "City"]⟩, "eq", " \n''", default⟩]⟩]⟩

theorem parse_written_likeness :
    (∃ h, parse {} likeness.written = .ok h ∧ h.withoutSpans = likeness.withoutSpans) ∧
    (∃ g, parse {} "Name eq  x _Or Age gt '5' y" = .ok g ∧
      ∃ h, parse {} g.written = .ok h ∧ h.withoutSpans = g.withoutSpans) ∧
    ¬ ∃ g c, parse {} (⟨⟨["Name"]⟩, "eq", "x' _Or Age gt '5", default⟩ : Clause).written = .ok g ∧
      g.clauses = [c] := by
  refine ⟨parse_written.1 likeness (by decide +kernel), ?_, ?_⟩
  · have hparse : parse {} "Name eq  x _Or Age gt '5' y" =
        .ok ⟨[⟨[⟨⟨["Name"]⟩, "eq", "x", ⟨0, 10⟩⟩, ⟨⟨["Age"]⟩, "gt", "5", ⟨15, 12⟩⟩]⟩]⟩ := by
      decide +kernel
    exact ⟨_, hparse, (parse_written.2.1 {} _ _ (by decide) hparse).2⟩
  · intro hone
    have hfree := (parse_written.2.2 ⟨["Name"]⟩ "eq" "x' _Or Age gt '5" (by decide +kernel)
      (by decide +kernel) (by decide +kernel) (by decide +kernel)).1.mp hone
    exact absurd hfree (by decide +kernel)

end Grouping
end RowFilter
