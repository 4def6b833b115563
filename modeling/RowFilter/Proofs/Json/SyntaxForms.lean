import RowFilter.Json.SyntaxForms
import RowFilter.Proofs.Json.Form

/-!
# Laws of the structured forms of the parts of a filter

`Storable` says of each type which of its values JSON can hold: those whose counts fit in 64 bits
and whose paths are valid, wherever in the value they are. A grouping that is made by hand need be
neither, and is written all the same; only then it is not read back.
-/

set_option autoImplicit false

namespace RowFilter

open Json JsonForm

/-! ## Clauses and groupings -/

def Span.Storable (s : Span) : Prop := IsCount s.offset ∧ IsCount s.len

def Clause.Storable (c : Clause) : Prop := c.path.Valid ∧ c.span.Storable

def OrGroup.Storable (g : OrGroup) : Prop := ∀ c ∈ g.alternatives, c.Storable

def Grouping.Storable (g : Grouping) : Prop := ∀ group ∈ g.groups, group.Storable

theorem Span.lawful : Lawful Span.Storable := by
  constructor
  · rintro ⟨offset, len⟩ ⟨hoffset, hlen⟩
    have hfields := fields?_zip ["offset", "len"] [encode offset, encode len] (by simp) rfl
    refine Option.bind_eq_some_iff.mpr ⟨_, hfields, ?_⟩
    simp [lawful_nat.decode_encode offset hoffset, lawful_nat.decode_encode len hlen]
  · intro x s h
    obtain ⟨fields, -, h⟩ := Option.bind_eq_some_iff.mp h
    split at h
    · obtain ⟨offset, hoffset, h⟩ := Option.bind_eq_some_iff.mp h
      obtain ⟨len, hlen, heq⟩ := Option.bind_eq_some_iff.mp h
      cases heq
      exact ⟨lawful_nat.of_decode _ offset hoffset, lawful_nat.of_decode _ len hlen⟩
    · cases h

/-- A path is checked when it is read. -/
theorem Path.lawful : Lawful Path.Valid := by
  constructor
  · intro p hp
    refine Option.bind_eq_some_iff.mpr ⟨p.segments, ?_, if_pos hp⟩
    exact lawful_string.list.decode_encode p.segments fun _ _ => trivial
  · intro x p h
    obtain ⟨segments, -, h⟩ := Option.bind_eq_some_iff.mp h
    obtain ⟨hvalid, heq⟩ := Option.ite_none_right_eq_some.mp h
    cases heq
    exact hvalid

theorem Operator.lawful : Lawful fun _ : Operator => True :=
  ⟨fun op _ => ofName?_name op, fun _ _ _ => trivial⟩

theorem Clause.lawful : Lawful Clause.Storable := by
  constructor
  · rintro ⟨path, operator, literal, span⟩ ⟨hpath, hspan⟩
    have hfields := fields?_zip ["path", "operator", "literal", "span"]
      [encode path, encode operator, encode literal, encode span] (by simp) rfl
    refine Option.bind_eq_some_iff.mpr ⟨_, hfields, ?_⟩
    simp [Path.lawful.decode_encode path hpath, lawful_string.decode_encode _ trivial,
      Span.lawful.decode_encode span hspan]
  · intro x c h
    obtain ⟨fields, -, h⟩ := Option.bind_eq_some_iff.mp h
    split at h
    · obtain ⟨path, hpath, h⟩ := Option.bind_eq_some_iff.mp h
      obtain ⟨operator, -, h⟩ := Option.bind_eq_some_iff.mp h
      obtain ⟨literal, -, h⟩ := Option.bind_eq_some_iff.mp h
      obtain ⟨span, hspan, heq⟩ := Option.bind_eq_some_iff.mp h
      cases heq
      exact ⟨Path.lawful.of_decode _ path hpath, Span.lawful.of_decode _ span hspan⟩
    · cases h

theorem OrGroup.lawful : Lawful OrGroup.Storable := by
  constructor
  · rintro ⟨alternatives⟩ h
    have hfields := fields?_zip ["alternatives"] [encode alternatives] (by simp) rfl
    refine Option.bind_eq_some_iff.mpr ⟨_, hfields, ?_⟩
    simp [Clause.lawful.list.decode_encode alternatives h]
  · intro x g h
    obtain ⟨fields, -, h⟩ := Option.bind_eq_some_iff.mp h
    split at h
    · obtain ⟨alternatives, hread, heq⟩ := Option.bind_eq_some_iff.mp h
      cases heq
      exact Clause.lawful.list.of_decode _ alternatives hread
    · cases h

theorem Grouping.lawful : Lawful Grouping.Storable := by
  constructor
  · rintro ⟨groups⟩ h
    have hfields := fields?_zip ["groups"] [encode groups] (by simp) rfl
    refine Option.bind_eq_some_iff.mpr ⟨_, hfields, ?_⟩
    simp [OrGroup.lawful.list.decode_encode groups h]
  · intro x g h
    obtain ⟨fields, -, h⟩ := Option.bind_eq_some_iff.mp h
    split at h
    · obtain ⟨groups, hread, heq⟩ := Option.bind_eq_some_iff.mp h
      cases heq
      exact OrGroup.lawful.list.of_decode _ groups hread
    · cases h

theorem Grouping.storable_iff {g : Grouping} : g.Storable ↔ ∀ c ∈ g.clauses, c.Storable := by
  simp only [Grouping.Storable, OrGroup.Storable, Grouping.clauses, List.forall_mem_flatMap]

/-! ## Options and errors -/

def ParseOptions.Storable (o : ParseOptions) : Prop := ∀ n ∈ o.maxClauses, IsCount n

def ClauseDefect.Storable : ClauseDefect → Prop
  | tokenCount expected found => IsCount expected ∧ IsCount found
  | unclosedQuote | emptyPathSegment => True

def ParseError.Storable : ParseError → Prop
  | malformedClause _ span reason => span.Storable ∧ reason.Storable
  | emptyExpression => True
  | tooManyClauses count max => IsCount count ∧ IsCount max

theorem ParseOptions.lawful : Lawful ParseOptions.Storable := by
  have hlimit : Lawful fun limit : Option Nat => ∀ n ∈ limit, IsCount n :=
    lawful_nat.option fun n h => by cases h
  have hread : ∀ (x : Json) (o : ParseOptions),
      (do return (⟨← decode? x⟩ : ParseOptions)) = some o → o.Storable := by
    intro x o h
    obtain ⟨limit, hlimit', heq⟩ := Option.bind_eq_some_iff.mp h
    cases heq
    exact hlimit.of_decode x limit hlimit'
  have hnone : ParseOptions.Storable {} := fun n hn => by cases hn
  constructor
  · rintro ⟨limit⟩ h
    exact Option.bind_eq_some_iff.mpr ⟨limit, hlimit.decode_encode limit h, rfl⟩
  · intro x o h
    simp only [decode?] at h
    split at h
    · cases h
      exact hnone
    · exact hread _ o h
    · split at h
      · exact hread _ o h
      · cases h
        exact hnone
    · cases h

theorem ClauseDefect.lawful : Lawful ClauseDefect.Storable := by
  constructor
  · rintro (⟨expected, found⟩ | _ | _) h
    · have hfields := members?_zip ["expected", "found"] [encode expected, encode found]
        (by simp) rfl
      refine Option.bind_eq_some_iff.mpr ⟨_, hfields, ?_⟩
      simp [lawful_nat.decode_encode expected h.1, lawful_nat.decode_encode found h.2]
    · rfl
    · rfl
  · intro x d h
    simp only [decode?] at h
    split at h
    · obtain ⟨fields, -, h⟩ := Option.bind_eq_some_iff.mp h
      split at h
      · obtain ⟨expected, hexpected, h⟩ := Option.bind_eq_some_iff.mp h
        obtain ⟨found, hfound, heq⟩ := Option.bind_eq_some_iff.mp h
        cases heq
        exact ⟨lawful_nat.of_decode _ expected hexpected, lawful_nat.of_decode _ found hfound⟩
      · cases h
    · split at h
      · cases h
        trivial
      · cases h
        trivial
      · cases h

theorem ParseError.lawful : Lawful ParseError.Storable := by
  constructor
  · rintro (⟨clause, span, reason⟩ | _ | ⟨count, max⟩) h
    · have hfields := members?_zip ["clause", "span", "reason"]
        [encode clause, encode span, encode reason] (by simp) rfl
      refine Option.bind_eq_some_iff.mpr ⟨_, hfields, ?_⟩
      simp [lawful_string.decode_encode clause trivial, Span.lawful.decode_encode span h.1,
        ClauseDefect.lawful.decode_encode reason h.2]
    · rfl
    · have hfields := members?_zip ["count", "max"] [encode count, encode max] (by simp) rfl
      refine Option.bind_eq_some_iff.mpr ⟨_, hfields, ?_⟩
      simp [lawful_nat.decode_encode count h.1, lawful_nat.decode_encode max h.2]
  · intro x e h
    simp only [decode?] at h
    split at h
    · obtain ⟨fields, -, h⟩ := Option.bind_eq_some_iff.mp h
      split at h
      · obtain ⟨clause, -, h⟩ := Option.bind_eq_some_iff.mp h
        obtain ⟨span, hspan, h⟩ := Option.bind_eq_some_iff.mp h
        obtain ⟨reason, hreason, heq⟩ := Option.bind_eq_some_iff.mp h
        cases heq
        exact ⟨Span.lawful.of_decode _ span hspan, ClauseDefect.lawful.of_decode _ reason hreason⟩
      · cases h
    · obtain ⟨fields, -, h⟩ := Option.bind_eq_some_iff.mp h
      split at h
      · obtain ⟨count, hcount, h⟩ := Option.bind_eq_some_iff.mp h
        obtain ⟨max, hmax, heq⟩ := Option.bind_eq_some_iff.mp h
        cases heq
        exact ⟨lawful_nat.of_decode _ count hcount, lawful_nat.of_decode _ max hmax⟩
      · cases h
    · split at h
      · cases h
        trivial
      · cases h

end RowFilter
