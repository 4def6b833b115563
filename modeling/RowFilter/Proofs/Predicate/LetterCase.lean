import RowFilter.Proofs.Predicate.Refusal
import RowFilter.Proofs.Text.LetterCase

/-!
# Letter case never matters

Two groupings that differ only in the letter case of names and tokens are compiled alike: a schema
is asked for a field by the lower case of its name, and an operator is found by the lower case of
its token. What the two compilations can differ in is what they show, the path and the operator as
the clause has them. So they succeed with predicates that accept the same rows, or they fail at the
same clause with errors that say the same up to those texts.

That two texts have one lower case is all that is asked for. It holds of a name and its own lower
case, and of names that differ in the case of ASCII letters, whatever other letters they have.
-/

set_option autoImplicit false

namespace RowFilter

variable {τ : Type} {Row : τ → Type}

/-! ## The same up to letter case -/

/-- The texts have one lower case. -/
def SameName (a b : String) : Prop := Text.lowercase a = Text.lowercase b

instance (a b : String) : Decidable (SameName a b) := by unfold SameName; infer_instance

structure Clause.CaseVariant (c d : Clause) : Prop where
  path : List.Forall₂ SameName c.path.segments d.path.segments
  operator : SameName c.operator d.operator
  literal : c.literal = d.literal

/-- The groupings have one shape, and their clauses are case variants one by one. -/
def Grouping.CaseVariant (g h : Grouping) : Prop :=
  List.Forall₂ (fun a b => List.Forall₂ Clause.CaseVariant a.alternatives b.alternatives)
    g.groups h.groups

/-- The errors have one cause. Kinds and literals are the same, names are so up to letter case, and
each has the path of its own clause. -/
inductive CompileError.CaseVariant : CompileError → CompileError → Prop
  | unknownField {p q a b : String} : SameName a b →
      CaseVariant (.unknownField p a) (.unknownField q b)
  | valueCoercionFailed {p q literal : String} {k : Kind} :
      CaseVariant (.valueCoercionFailed p literal k) (.valueCoercionFailed q literal k)
  | containsRequiresString {p q : String} {k : Kind} :
      CaseVariant (.containsRequiresString p k) (.containsRequiresString q k)
  | unknownOperator {a b : String} : SameName a b →
      CaseVariant (.unknownOperator a) (.unknownOperator b)

theorem Grouping.CaseVariant.clauses {g h : Grouping} (hgh : g.CaseVariant h) :
    List.Forall₂ Clause.CaseVariant g.clauses h.clauses := by
  have hgroups : List.Forall₂ (List.Forall₂ Clause.CaseVariant)
      (g.groups.map (·.alternatives)) (h.groups.map (·.alternatives)) :=
    List.forall₂_map_left_iff.mpr (List.forall₂_map_right_iff.mpr hgh)
  rw [Grouping.clauses, Grouping.clauses, List.flatMap_def, List.flatMap_def]
  exact List.rel_flatten hgroups

theorem Clause.CaseVariant.symm {c d : Clause} (h : c.CaseVariant d) : d.CaseVariant c :=
  ⟨h.path.flip.imp fun _ _ hname => hname.symm, h.operator.symm, h.literal.symm⟩

theorem Grouping.CaseVariant.symm {g h : Grouping} (hgh : g.CaseVariant h) : h.CaseVariant g :=
  hgh.flip.imp fun _ _ hgroup => hgroup.flip.imp fun _ _ hcd => hcd.symm

/-! ## Paths and operators -/

variable {catalog : Catalog Row} {s : Schema Row}

theorem Schema.field?_congr {a b : String} (h : SameName a b) : s.field? a = s.field? b := by
  rw [field?, field?, place?, place?, h]

theorem Operator.ofToken?_congr {a b : String} (h : SameName a b) : ofToken? a = ofToken? b := by
  rw [ofToken?, ofToken?, h]

/-- Names that are the same up to letter case lead along one route, or go wrong at one place. -/
theorem Route.resolve_alike {as bs : List String} (h : List.Forall₂ SameName as bs) :
    Alike SameName Eq (resolve catalog s as) (resolve catalog s bs) := by
  induction h generalizing s with
  | nil => exact .error rfl
  | @cons a b as bs hab hrest ih =>
    have hfield : s.field? b = s.field? a := (Schema.field?_congr hab).symm
    cases hrest with
    | nil =>
      rw [resolve, resolve, hfield]
      split
      · split
        · exact .ok rfl
        · exact .error hab
      · exact .error hab
    | @cons a' b' as bs hab' hrest =>
      rw [resolve, resolve, hfield]
      split
      · exact ih.map fun route route' heq => congrArg (into _) heq
      · exact .error hab'
      · exact .error hab

/-! ## Clauses -/

namespace Clause.CaseVariant

variable {c d : Clause}

theorem operator?_eq (h : c.CaseVariant d) : d.operator? = c.operator? :=
  (Operator.ofToken?_congr h.operator).symm

/-- The path of the variant leads along the same route. -/
theorem resolve_eq_ok (h : c.CaseVariant d) {f : Descriptor Row}
    (hf : catalog.resolve s c.path = .ok f) :
    catalog.resolve s d.path = .ok ⟨d.path, f.route⟩ := by
  have hroute := (Catalog.resolve_eq_ok.mp hf).1
  obtain ⟨route, hroute', rfl⟩ := (Route.resolve_alike h.path).exists_ok hroute
  exact Catalog.resolve_eq_ok.mpr ⟨hroute', rfl⟩

/-- What the clause is bound to, with the path of the variant. -/
theorem boundTo (h : c.CaseVariant d) {b : Comparison × Test Row} (hb : c.BoundTo catalog s b) :
    d.BoundTo catalog s (⟨d.path, b.2.operator, d.literal⟩,
      ⟨⟨d.path, b.2.field.route⟩, b.2.operator, b.2.literal⟩) where
  field := h.resolve_eq_ok hb.field
  literal := by
    rw [← h.literal]
    exact hb.literal
  operator := h.operator?_eq.trans hb.operator
  text := hb.text
  comparison := rfl

theorem refusedWith (h : c.CaseVariant d) {e : CompileError} (he : c.RefusedWith catalog s e) :
    ∃ e', d.RefusedWith catalog s e' ∧ e.CaseVariant e' := by
  have htoken : Text.lowercase c.operator = Text.lowercase d.operator := h.operator
  cases he with
  | field hroute =>
    obtain ⟨segment, hroute', hsegment⟩ := (Route.resolve_alike h.path).exists_error hroute
    exact ⟨_, .field hroute', .unknownField hsegment⟩
  | literal hfield hliteral =>
    rw [h.literal] at hliteral ⊢
    exact ⟨_, .literal (h.resolve_eq_ok hfield) hliteral, .valueCoercionFailed⟩
  | operator hfield hliteral hnone =>
    rw [h.literal] at hliteral
    rw [htoken] at hnone
    exact ⟨_, .operator (h.resolve_eq_ok hfield) hliteral hnone, .unknownOperator h.operator⟩
  | text hfield hliteral hcontains hkind =>
    rw [h.literal] at hliteral
    rw [htoken] at hcontains
    exact ⟨_, .text (h.resolve_eq_ok hfield) hliteral hcontains hkind, .containsRequiresString⟩

/-- The clauses are compiled to tests that hold of the same rows, or refused for one reason. -/
theorem compileClause_alike (h : c.CaseVariant d) :
    Alike CompileError.CaseVariant (fun b b' => ∀ r, b.2.holds r = b'.2.holds r)
      (Predicate.compileClause catalog s c) (Predicate.compileClause catalog s d) := by
  cases hc : Predicate.compileClause catalog s c with
  | ok b =>
    rw [Predicate.compileClause_eq_ok.mpr (h.boundTo (Predicate.compileClause_eq_ok.mp hc))]
    exact .ok fun r => rfl
  | error e =>
    obtain ⟨e', he', hvariant⟩ := h.refusedWith (compileClause_eq_error.mp hc)
    rw [compileClause_eq_error.mpr he']
    exact .error hvariant

theorem passes {t : τ} (h : c.CaseVariant d) {row : Row t}
    (hc : Predicate.Passes catalog row c) : Predicate.Passes catalog row d := by
  obtain ⟨b, hb, hholds⟩ := hc
  exact ⟨_, h.boundTo hb, hholds⟩

end Clause.CaseVariant

/-! ## Groupings -/

namespace Predicate

variable {t : τ} {g h : Grouping}

/-- The groupings are compiled to predicates that accept the same rows, or the same clause of both
is the first that does not fit, and the errors are those of that clause. -/
inductive CompiledAlike (catalog : Catalog Row) (t : τ) (g h : Grouping) : Prop
  | ok {p q : Predicate Row t} : compile catalog t g = .ok p → compile catalog t h = .ok q →
      (∀ row, p.accepts row = q.accepts row) → CompiledAlike catalog t g h
  | error {before before' after after' : List Clause} {c c' : Clause} {e e' : CompileError} :
      g.clauses = before ++ c :: after → h.clauses = before' ++ c' :: after' →
      before.length = before'.length → (∀ b ∈ before, b.Fits catalog (catalog t)) →
      (∀ b ∈ before', b.Fits catalog (catalog t)) → c.RefusedWith catalog (catalog t) e →
      c'.RefusedWith catalog (catalog t) e' → e.CaseVariant e' →
      compile catalog t g = .error e → compile catalog t h = .error e' →
      CompiledAlike catalog t g h

theorem accepts_iff_of_caseVariant (hgh : g.CaseVariant h) {p q : Predicate Row t}
    (hp : compile catalog t g = .ok p) (hq : compile catalog t h = .ok q) (row : Row t) :
    p.accepts row = true ↔ q.accepts row = true := by
  rw [accepts_iff_passes hp, accepts_iff_passes hq]
  refine forall_mem_iff_of_forall₂ hgh fun group group' hgroup => imp_congr (not_congr ?_) ?_
  · exact eq_nil_iff_of_forall₂ hgroup
  · exact exists_mem_iff_of_forall₂ hgroup fun c d hcd => ⟨hcd.passes, hcd.symm.passes⟩

theorem compiledAlike_of_caseVariant (hgh : g.CaseVariant h) : CompiledAlike catalog t g h := by
  have halike : ∀ c d, c.CaseVariant d → Alike CompileError.CaseVariant
      (fun b b' => ∀ r, b.2.holds r = b'.2.holds r)
      (compileClause catalog (catalog t) c) (compileClause catalog (catalog t) d) :=
    fun c d hcd => hcd.compileClause_alike
  cases hg : compile catalog t g with
  | error e =>
    obtain ⟨before, c, after, before', c', after', e', hclauses, hclauses', hzs, -, hbefore,
        hbefore', hc, hc', hvariant, herror⟩ :=
      exists_mapM_eq_error_of_alike hgh.clauses halike (compile_eq_error.mp hg)
    refine .error hclauses hclauses' hzs.length_eq ?_ ?_ (Clause.compileClause_eq_error.mp hc)
      (Clause.compileClause_eq_error.mp hc') hvariant hg (compile_eq_error.mpr herror)
    · exact fun b hb => Clause.exists_compileClause_iff.mp (hbefore b hb)
    · exact fun b hb => Clause.exists_compileClause_iff.mp (hbefore' b hb)
  | ok p =>
    cases hh : compile catalog t h with
    | ok q =>
      exact .ok hg hh fun row => Bool.eq_iff_iff.mpr (accepts_iff_of_caseVariant hgh hg hh row)
    | error e =>
      -- A failure of the second one would be a failure of the first one.
      obtain ⟨_, _, _, _, _, _, e', -, -, -, -, -, -, -, -, -, herror⟩ :=
        exists_mapM_eq_error_of_alike hgh.symm.clauses halike (compile_eq_error.mp hh)
      rw [compile_eq_error.mpr herror] at hg
      cases hg

/-- **Letter case never matters.** Groupings that differ in the letter case of names and tokens only
are compiled alike, and what counts as that includes a name and its lower case, and names that
differ in the case of ASCII letters, a sigma among them or not. -/
theorem compile_ignores_case (catalog : Catalog Row) (t : τ) :
    (∀ g h : Grouping, g.CaseVariant h → CompiledAlike catalog t g h) ∧
    (∀ s, SameName s (Text.lowercase s)) ∧
    ∀ a b : String, Text.asciiLower a.toList = Text.asciiLower b.toList → SameName a b :=
  ⟨fun _ _ => compiledAlike_of_caseVariant, fun s => (Text.lowercase_lowercase s).symm,
    fun _ _ => Text.lowercase_eq_of_asciiLower_eq⟩

/-- The sigma ends a word in both names and becomes the final one. -/
theorem compile_ignores_case_neighbours :
    People.neighbours.CaseVariant People.neighboursRecased ∧
    CompiledAlike People.catalog .person People.neighbours People.neighboursRecased ∧
    Text.lowercase "abΣ" = "abς" ∧ SameName "abΣ" "Abς" ∧ SameName "abΣ" "aBΣ" := by
  have hvariant : People.neighbours.CaseVariant People.neighboursRecased :=
    .cons (.cons ⟨.cons (by decide +kernel) .nil, by decide +kernel, rfl⟩
        (.cons ⟨.cons (by decide +kernel) (.cons (by decide +kernel) .nil), by decide +kernel, rfl⟩
          .nil))
      (.cons .nil (.cons (.cons ⟨.cons (by decide +kernel) (.cons (by decide +kernel)
        (.cons (by decide +kernel) .nil)), by decide +kernel, rfl⟩ .nil) .nil))
  obtain ⟨halike, -, hascii⟩ := compile_ignores_case People.catalog .person
  exact ⟨hvariant, halike _ _ hvariant, by decide +kernel, by decide +kernel,
    hascii _ _ (by decide +kernel)⟩

end Predicate

end RowFilter
