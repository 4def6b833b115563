import Mathlib.Logic.ExistsUnique
import RowFilter.Proofs.Predicate.Acceptance

/-!
# Which groupings compile

A clause *fits* a schema when it has none of the four faults that compiling looks for, and a clause
with faults is *refused* with one error, that of its first fault. A grouping compiles when all its
clauses fit; otherwise the first clause that does not fit is refused, and its error is the error of
the grouping, whatever groups there are and whatever comes later.

Both judgments are stated by what they ask of the path, the literal and the token, and not by the
order in which the code asks it.
-/

set_option autoImplicit false

namespace RowFilter

variable {τ : Type} {Row : τ → Type}

theorem Operator.ofToken?_eq_none {s : String} :
    ofToken? s = none ↔ ∀ op : Operator, op.token ≠ Text.lowercase s := by
  rw [Option.eq_none_iff_forall_ne_some]
  exact forall_congr' fun op => not_congr ofToken?_eq_some

namespace Clause

variable {catalog : Catalog Row} {s : Schema Row} {c : Clause} {e e' : CompileError}

/-- The path leads to a scalar field, the literal is a value of the field's kind, the operator is a
token in any letter case, and a part is asked of a text only. -/
def Fits (catalog : Catalog Row) (s : Schema Row) (c : Clause) : Prop :=
  ∃ (d : Descriptor Row) (l : Value) (op : Operator),
    catalog.resolve s c.path = .ok d ∧ d.kind.isScalar = true ∧
    Value.ofLiteral? d.kind c.literal = some l ∧ op.token = Text.lowercase c.operator ∧
    (op = .contains → d.kind = .text)

/-- The clause has the fault that the error says, and none of the faults that come before it here. -/
inductive RefusedWith (catalog : Catalog Row) (s : Schema Row) (c : Clause) : CompileError → Prop
  /-- The path leads to no scalar field. It goes wrong at the segment. -/
  | field {segment : String} : Route.resolve catalog s c.path.segments = .error segment →
      RefusedWith catalog s c (.unknownField c.path.toString segment)
  | literal {d : Descriptor Row} : catalog.resolve s c.path = .ok d →
      Value.ofLiteral? d.kind c.literal = none →
      RefusedWith catalog s c (.valueCoercionFailed c.path.toString c.literal d.kind)
  | operator {d : Descriptor Row} {l : Value} : catalog.resolve s c.path = .ok d →
      Value.ofLiteral? d.kind c.literal = some l →
      (∀ op : Operator, op.token ≠ Text.lowercase c.operator) →
      RefusedWith catalog s c (.unknownOperator c.operator)
  | text {d : Descriptor Row} {l : Value} : catalog.resolve s c.path = .ok d →
      Value.ofLiteral? d.kind c.literal = some l →
      Operator.contains.token = Text.lowercase c.operator → d.kind ≠ .text →
      RefusedWith catalog s c (.containsRequiresString c.path.toString d.kind)

/-! ## One clause -/

theorem exists_compileClause_iff :
    (∃ b, Predicate.compileClause catalog s c = .ok b) ↔ c.Fits catalog s := by
  constructor
  · rintro ⟨b, hb⟩
    have h := Predicate.compileClause_eq_ok.mp hb
    have hscalar := Route.isScalar_kind_of_resolve (Catalog.resolve_eq_ok.mp h.field).1
    exact ⟨_, _, _, h.field, hscalar, h.literal, Operator.ofToken?_eq_some.mp h.operator, h.text⟩
  · rintro ⟨d, l, op, hfield, -, hliteral, htoken, htext⟩
    refine ⟨(⟨c.path, op, c.literal⟩, ⟨d, op, l⟩), Predicate.compileClause_eq_ok.mpr ?_⟩
    exact ⟨hfield, hliteral, Operator.ofToken?_eq_some.mpr htoken, htext, rfl⟩

theorem compileClause_eq_error :
    Predicate.compileClause catalog s c = .error e ↔ c.RefusedWith catalog s e := by
  constructor
  · intro h
    rw [Predicate.compileClause] at h
    cases hroute : Route.resolve catalog s c.path.segments with
    | error segment =>
      rw [Catalog.resolve, hroute] at h
      cases h
      exact .field hroute
    | ok route =>
      have hfield : catalog.resolve s c.path = .ok ⟨c.path, route⟩ :=
        Catalog.resolve_eq_ok.mpr ⟨hroute, rfl⟩
      rw [hfield] at h
      cases hliteral : Value.ofLiteral? route.kind c.literal with
      | none =>
        simp only [bind, Except.bind, Descriptor.kind, hliteral] at h
        cases h
        exact .literal hfield hliteral
      | some l =>
        cases hoperator : c.operator? with
        | none =>
          simp only [bind, Except.bind, Descriptor.kind, hliteral, hoperator] at h
          cases h
          exact .operator hfield hliteral (Operator.ofToken?_eq_none.mp hoperator)
        | some op =>
          simp only [bind, Except.bind, Descriptor.kind, hliteral, hoperator] at h
          by_cases htext : op = .contains ∧ route.kind ≠ .text
          · obtain ⟨rfl, hkind⟩ := htext
            simp only [ne_eq, hkind, not_false_iff, and_self, if_true] at h
            cases h
            exact .text hfield hliteral (Operator.ofToken?_eq_some.mp hoperator) hkind
          · simp only [htext, if_false] at h
            cases h
  · intro h
    rw [Predicate.compileClause]
    cases h with
    | field hroute =>
      rw [Catalog.resolve, hroute]
      rfl
    | literal hfield hliteral =>
      rw [hfield]
      simp only [bind, Except.bind, hliteral]
    | operator hfield hliteral htoken =>
      have hoperator : c.operator? = none := Operator.ofToken?_eq_none.mpr htoken
      rw [hfield]
      simp only [bind, Except.bind, hliteral, hoperator]
    | text hfield hliteral htoken hkind =>
      have hoperator : c.operator? = some .contains := Operator.ofToken?_eq_some.mpr htoken
      rw [hfield]
      simp only [bind, Except.bind, hliteral, hoperator, ne_eq, hkind, not_false_iff, and_self,
        if_true]

/-- A clause that does not fit has one error, and a clause that fits has none. -/
theorem not_fits_iff : ¬ c.Fits catalog s ↔ ∃! e, c.RefusedWith catalog s e := by
  rw [← exists_compileClause_iff]
  simp only [← compileClause_eq_error]
  cases h : Predicate.compileClause catalog s c with
  | ok b =>
    refine ⟨fun hnot => absurd ⟨b, rfl⟩ hnot, ?_⟩
    rintro ⟨e, he, -⟩
    cases he
  | error e =>
    refine ⟨fun _ => ⟨e, rfl, fun e' he' => ?_⟩, ?_⟩
    · cases he'
      rfl
    · rintro - ⟨b, hb⟩
      cases hb

end Clause

/-! ## All clauses -/

namespace Predicate

variable {catalog : Catalog Row} {t : τ} {g : Grouping}

/-- A grouping fails as the list of its clauses does. -/
theorem compile_eq_error {e : CompileError} :
    compile catalog t g = .error e ↔
      g.clauses.mapM (compileClause catalog (catalog t)) = .error e := by
  have hgroups : (g.groups.mapM fun group =>
        id <$> group.alternatives.mapM (compileClause catalog (catalog t))) = .error e ↔
      g.clauses.mapM (compileClause catalog (catalog t)) = .error e :=
    mapM_groups_eq_error
  simp only [id_map] at hgroups
  exact map_eq_error.trans hgroups

/-- **A grouping compiles if and only if all its clauses fit, and otherwise its first misfit is
reported.** The errors of a grouping are those of its first clause that does not fit, of which there
is exactly one; the later clauses, and how the clauses are grouped, do not matter. -/
theorem compile_iff_fits (catalog : Catalog Row) (t : τ) (g : Grouping) :
    ((∃ p, compile catalog t g = .ok p) ↔ ∀ c ∈ g.clauses, c.Fits catalog (catalog t)) ∧
    (∀ e, compile catalog t g = .error e ↔ ∃ before c after, g.clauses = before ++ c :: after ∧
      (∀ b ∈ before, b.Fits catalog (catalog t)) ∧ c.RefusedWith catalog (catalog t) e) ∧
    ∀ c : Clause, ¬ c.Fits catalog (catalog t) ↔ ∃! e, c.RefusedWith catalog (catalog t) e := by
  refine ⟨?_, fun e => ?_, fun c => Clause.not_fits_iff⟩
  · rw [exists_eq_ok_congr fun e => compile_eq_error, exists_mapM_eq_ok]
    exact forall₂_congr fun c _ => Clause.exists_compileClause_iff
  · rw [compile_eq_error, mapM_eq_error]
    simp only [Clause.exists_compileClause_iff, Clause.compileClause_eq_error]

/-- The clause behind the neighbours has two faults, and the one behind it has a third. -/
theorem compile_iff_fits_neighbours :
    (∀ c ∈ People.neighbours.clauses, c.Fits People.catalog (People.catalog .person)) ∧
    ∃ before c after, People.neighbours.clauses ++
        [⟨⟨["Me", "Age"]⟩, "cn", "x", default⟩, ⟨⟨["Town"]⟩, "eq", "x", default⟩] =
          before ++ c :: after ∧
      (∀ b ∈ before, b.Fits People.catalog (People.catalog .person)) ∧
      c.RefusedWith People.catalog (People.catalog .person)
        (.valueCoercionFailed "Me.Age" "x" (.integer .i32)) := by
  have herror : (fun _ => ()) <$> compile People.catalog .person ⟨People.neighbours.groups ++
      [⟨[⟨⟨["Me", "Age"]⟩, "cn", "x", default⟩, ⟨⟨["Town"]⟩, "eq", "x", default⟩]⟩]⟩ =
        .error (.valueCoercionFailed "Me.Age" "x" (.integer .i32)) := by
    decide +kernel
  exact ⟨(compile_iff_fits People.catalog .person People.neighbours).1.mp People.neighbours_compiles,
    ((compile_iff_fits People.catalog .person _).2.1 _).mp (map_eq_error.mp herror)⟩

end Predicate
end RowFilter
