import RowFilter.Proofs.Predicate.Refusal
import RowFilter.Proofs.Value.Order

/-!
# The five comparisons belong together

A path and a literal can be compared in five ways. Compiling looks at the operator only after the
path and the literal, and none of the five asks more of them than another, so they compile alike. On
a row they then answer as an order does: `le` is `lt` or `eq`, `ge` is `gt` or `eq`, and one of `lt`,
`eq` and `gt` holds, no two of them together. The exception is a NaN on either side, where none of
the five holds.

With two literals the answers are monotone in the literal. There is no exception to this: a NaN
stands in no order to anything, so what is said of two ordered literals is not said of it.
-/

set_option autoImplicit false

namespace RowFilter

/-- The grouping that compares what the path leads to with the literal. -/
def Grouping.comparing (path : Path) (op : Operator) (literal : String) (span : Span) : Grouping :=
  ⟨[⟨[⟨path, op.token, literal, span⟩]⟩]⟩

namespace Predicate

variable {τ : Type} {Row : τ → Type} {catalog : Catalog Row} {t : τ} {path : Path}
  {op op' : Operator} {literal : String} {span span' : Span} {e : CompileError}

/-- The grouping compiles, and its predicate accepts the row. -/
def Selects (catalog : Catalog Row) (t : τ) (g : Grouping) (row : Row t) : Prop :=
  ∃ p, compile catalog t g = .ok p ∧ p.accepts row = true

/-! ## Compiling -/

theorem compile_comparing_eq_error :
    compile catalog t (.comparing path op literal span) = .error e ↔
      Clause.RefusedWith catalog (catalog t) ⟨path, op.token, literal, span⟩ e := by
  have hone : ∀ x : Except CompileError (Comparison × Test Row),
      (x >>= fun b => Except.ok [b]) = .error e ↔ x = .error e := fun x => map_eq_error
  rw [compile_eq_error, ← Clause.compileClause_eq_error, ← hone]
  show List.mapM _ [_] = _ ↔ _
  rw [List.mapM_cons]
  exact Iff.rfl

/-- What is wrong with a comparison is the path or the literal, whatever its operator. -/
theorem refusedWith_comparing (hop : op ≠ .contains)
    (h : Clause.RefusedWith catalog (catalog t) ⟨path, op.token, literal, span⟩ e) :
    Clause.RefusedWith catalog (catalog t) ⟨path, op'.token, literal, span'⟩ e := by
  have htoken := Operator.ofToken?_eq_some.mp (Operator.ofToken?_token op)
  cases h with
  | field hroute => exact .field hroute
  | literal hfield hliteral => exact .literal hfield hliteral
  | operator hfield hliteral hnone => exact absurd htoken (hnone op)
  | text hfield hliteral hcontains hkind =>
    have heq := Operator.ofToken?_eq_some.mpr hcontains
    rw [Operator.ofToken?_token] at heq
    exact absurd (Option.some.inj heq) hop

theorem compile_comparing_alike (hop : op ≠ .contains) (hop' : op' ≠ .contains) :
    Alike Eq (fun _ _ => True) (compile catalog t (.comparing path op literal span))
      (compile catalog t (.comparing path op' literal span')) := by
  apply Alike.of_eq_error_iff
  intro e
  rw [compile_comparing_eq_error, compile_comparing_eq_error]
  exact ⟨refusedWith_comparing hop, refusedWith_comparing hop'⟩

/-- The path and the literal make a test with each operator of the five. -/
theorem boundTo_comparing (hop : op ≠ .contains) {d : Descriptor Row} {l : Value}
    (hfield : catalog.resolve (catalog t) path = .ok d)
    (hliteral : Value.ofLiteral? d.kind literal = some l) :
    Clause.BoundTo catalog (catalog t) ⟨path, op.token, literal, span⟩
      (⟨path, op, literal⟩, ⟨d, op, l⟩) where
  field := hfield
  literal := hliteral
  operator := Operator.ofToken?_token op
  text := fun hcontains => absurd hcontains hop
  comparison := rfl

theorem exists_compile_comparing (hop : op ≠ .contains) :
    (∃ p, compile catalog t (.comparing path op literal span) = .ok p) ↔
      ∃ d l, catalog.resolve (catalog t) path = .ok d ∧
        Value.ofLiteral? d.kind literal = some l := by
  have herror : ∀ e, compile catalog t (.comparing path op literal span) = .error e ↔
      compileClause catalog (catalog t) ⟨path, op.token, literal, span⟩ = .error e := by
    intro e
    rw [compile_comparing_eq_error, Clause.compileClause_eq_error]
  rw [exists_eq_ok_congr herror]
  constructor
  · intro h
    obtain ⟨b, hb⟩ := h
    have hbound := compileClause_eq_ok.mp hb
    exact ⟨_, _, hbound.field, hbound.literal⟩
  · intro h
    obtain ⟨d, l, hfield, hliteral⟩ := h
    exact ⟨_, compileClause_eq_ok.mpr (boundTo_comparing hop hfield hliteral)⟩

/-! ## Selecting -/

/-- A comparison accepts the rows that pass its one test. -/
theorem accepts_comparing_iff (hop : op ≠ .contains) {d : Descriptor Row} {l : Value}
    (hfield : catalog.resolve (catalog t) path = .ok d)
    (hliteral : Value.ofLiteral? d.kind literal = some l) {p : Predicate Row t}
    (compiled : compile catalog t (.comparing path op literal span) = .ok p) (row : Row t) :
    p.accepts row = true ↔ Test.holds ⟨d, op, l⟩ ⟨t, row⟩ = true := by
  have hbound : Clause.BoundTo catalog (catalog t) ⟨path, op.token, literal, span⟩
      (⟨path, op, literal⟩, ⟨d, op, l⟩) := boundTo_comparing hop hfield hliteral
  rw [accepts_iff_passes compiled]
  constructor
  · intro h
    have hgroup := h _ List.mem_cons_self
    obtain ⟨c, hc, b, hb, hholds⟩ := hgroup (List.cons_ne_nil _ _)
    rw [List.mem_singleton.mp hc] at hb
    have heq := (compileClause_eq_ok.mpr hb).symm.trans (compileClause_eq_ok.mpr hbound)
    cases heq
    exact hholds
  · intro h group hgroup _
    rw [List.mem_singleton.mp hgroup]
    exact ⟨_, List.mem_cons_self, _, hbound, h⟩

/-- A comparison selects the rows whose value stands to the literal as its operator says. -/
theorem selects_comparing (hop : op ≠ .contains) {d : Descriptor Row} {l v : Value} {row : Row t}
    (hfield : catalog.resolve (catalog t) path = .ok d)
    (hliteral : Value.ofLiteral? d.kind literal = some l) (hread : d.read ⟨t, row⟩ = some v) :
    Selects catalog t (.comparing path op literal span) row ↔ op.relates v l = true := by
  have hholds : Test.holds ⟨d, op, l⟩ ⟨t, row⟩ = op.relates v l := by
    simp only [Test.holds, hread]
  constructor
  · intro h
    obtain ⟨p, hp, haccepts⟩ := h
    exact hholds.symm.trans ((accepts_comparing_iff hop hfield hliteral hp row).mp haccepts)
  · intro h
    obtain ⟨p, hp⟩ := (exists_compile_comparing hop).mpr ⟨d, l, hfield, hliteral⟩
    exact ⟨p, hp, (accepts_comparing_iff hop hfield hliteral hp row).mpr (hholds.trans h)⟩

/-! ## One literal -/

/-- The operators that hold are those of an order between a value `v` and a literal `l`. -/
structure CoherentFor (holds : Operator → Prop) (v l : Value) : Prop where
  le : holds .lessOrEqual ↔ holds .lessThan ∨ holds .equal
  ge : holds .greaterOrEqual ↔ holds .greaterThan ∨ holds .equal
  exclusive : ¬ (holds .lessThan ∧ holds .equal) ∧ ¬ (holds .lessThan ∧ holds .greaterThan) ∧
    ¬ (holds .equal ∧ holds .greaterThan)
  /-- Without a NaN the numbers decide by which values of the kind are compared. -/
  ordered : v.isNaN = false → l.isNaN = false →
    (holds .lessThan ∨ holds .equal ∨ holds .greaterThan) ∧
    (holds .lessThan ↔ compare v.weight l.weight = .lt) ∧
    (holds .equal ↔ v.weight = l.weight) ∧
    (holds .greaterThan ↔ compare v.weight l.weight = .gt)
  /-- Next to a NaN, which a float alone can be, nothing holds. -/
  nan : v.isNaN = true ∨ l.isNaN = true → (∃ f, v.kind = .float f) ∧
    ∀ op : Operator, op ≠ .contains → ¬ holds op

theorem coherentFor_relates {v l : Value} (hkind : v.kind = l.kind) :
    CoherentFor (fun op => op.relates v l = true) v l := by
  have hcompare := Value.compare?_of_kind_eq hkind
  constructor
  case le => simp [Operator.relates, Value.le, Value.lt, Value.equals_iff]
  case ge => simp [Operator.relates, Value.ge, Value.gt, Value.equals_iff]
  case exclusive =>
    simp only [Operator.relates, Value.lt, Value.gt, Value.equals_iff, decide_eq_true_iff]
    refine ⟨?_, ?_, ?_⟩ <;> · intro h; simp [h.1] at h
  case ordered =>
    intro hv hl
    rw [hv, hl] at hcompare
    simp only [Operator.relates, Value.lt, Value.gt, Value.equals_iff, decide_eq_true_iff, hcompare]
    simp only [Bool.false_eq_true, or_self, if_false, Option.some.injEq,
      Std.LawfulEqOrd.compare_eq_iff_eq, and_true, iff_self]
    cases h : compare v.weight l.weight with
    | lt => simp
    | eq => simp [Std.LawfulEqOrd.eq_of_compare h]
    | gt => simp
  case nan =>
    intro hnan
    rw [if_pos hnan] at hcompare
    refine ⟨?_, fun op hop => ?_⟩
    · cases hnan with
      | inl hv => exact Value.exists_float_of_isNaN hv
      | inr hl =>
        rw [hkind]
        exact Value.exists_float_of_isNaN hl
    · cases op with
      | contains => exact absurd rfl hop
      | _ => simp [Operator.relates, Value.lt, Value.gt, Value.le, Value.ge, Value.equals_iff, hcompare]

/-- It speaks of the five operators only. -/
theorem CoherentFor.congr {holds holds' : Operator → Prop} {v l : Value}
    (h : CoherentFor holds v l) (hiff : ∀ op, op ≠ .contains → (holds' op ↔ holds op)) :
    CoherentFor holds' v l where
  le := by simpa [hiff] using h.le
  ge := by simpa [hiff] using h.ge
  exclusive := by simpa [hiff] using h.exclusive
  ordered := by simpa [hiff] using h.ordered
  nan := by
    intro hnan
    refine ⟨(h.nan hnan).1, fun op hop => ?_⟩
    rw [hiff op hop]
    exact (h.nan hnan).2 op hop

/-! ## Two literals -/

/-- What holds below one bound holds below the other, and above them it is the other way round. -/
structure MonotoneFor (holds holds' : Operator → Prop) : Prop where
  lt : holds .lessThan → holds' .lessThan
  le : holds .lessOrEqual → holds' .lessOrEqual
  gt : holds' .greaterThan → holds .greaterThan
  ge : holds' .greaterOrEqual → holds .greaterOrEqual

theorem monotoneFor_relates {v l l' : Value} (hle : l.le l' = true) :
    MonotoneFor (fun op => op.relates v l = true) (fun op => op.relates v l' = true) where
  lt := fun h => Value.lt_of_lt_of_le h hle
  le := fun h => Value.le_trans h hle
  gt := fun h => Value.gt_iff_lt.mpr (Value.lt_of_le_of_lt hle (Value.gt_iff_lt.mp h))
  ge := fun h => Value.ge_iff_le.mpr (Value.le_trans hle (Value.ge_iff_le.mp h))

theorem MonotoneFor.congr {holds holds' answers answers' : Operator → Prop}
    (h : MonotoneFor holds holds') (hiff : ∀ op, op ≠ .contains → (answers op ↔ holds op))
    (hiff' : ∀ op, op ≠ .contains → (answers' op ↔ holds' op)) : MonotoneFor answers answers' where
  lt := by simpa [hiff, hiff'] using h.lt
  le := by simpa [hiff, hiff'] using h.le
  gt := by simpa [hiff, hiff'] using h.gt
  ge := by simpa [hiff, hiff'] using h.ge

variable [DecidableEq τ]

theorem exists_walk_read (made : catalog.Made) {d : Descriptor Row}
    (hfield : catalog.resolve (catalog t) path = .ok d) (row : Row t) :
    ∃ v, Walk catalog row path.segments d.kind v ∧ d.read ⟨t, row⟩ = some v := by
  have hroute := (Catalog.resolve_eq_ok.mp hfield).1
  obtain ⟨v, hwalk⟩ := exists_walk_of_resolve made hroute row
  exact ⟨v, hwalk, ((walk_iff made hroute row).mp hwalk).2⟩

/-- **The comparisons of a path with a literal are coherent.** The five compile alike, with one
error where they fail. Where they compile, they answer on every row as the order of the values of
that kind does; and for two literals of the field in that order, what is below the smaller one is
below the larger one, and what is above the larger one is above the smaller one. -/
theorem comparisons_coherent (made : catalog.Made) (t : τ) (path : Path) :
    (∀ literal op op' span span', op ≠ Operator.contains → op' ≠ Operator.contains →
      Alike Eq (fun _ _ => True) (compile catalog t (.comparing path op literal span))
        (compile catalog t (.comparing path op' literal span'))) ∧
    (∀ literal (span : Operator → Span),
      (∃ p, compile catalog t (.comparing path .equal literal (span .equal)) = .ok p) →
      ∃ k l, Value.ofLiteral? k literal = some l ∧
        ∀ row : Row t, ∃ v, Walk catalog row path.segments k v ∧
          CoherentFor
            (fun op => Selects catalog t (.comparing path op literal (span op)) row) v l) ∧
    ∀ d literal literal' l l' (span span' : Operator → Span),
      catalog.resolve (catalog t) path = .ok d →
      Value.ofLiteral? d.kind literal = some l → Value.ofLiteral? d.kind literal' = some l' →
      l.le l' = true → ∀ row : Row t,
        MonotoneFor (fun op => Selects catalog t (.comparing path op literal (span op)) row)
          (fun op => Selects catalog t (.comparing path op literal' (span' op)) row) := by
  refine ⟨fun literal op op' span span' => compile_comparing_alike, ?_, ?_⟩
  · intro literal span hcompiles
    obtain ⟨d, l, hfield, hliteral⟩ := (exists_compile_comparing (by decide)).mp hcompiles
    refine ⟨d.kind, l, hliteral, fun row => ?_⟩
    obtain ⟨v, hwalk, hread⟩ := exists_walk_read made hfield row
    have hkind : v.kind = l.kind := hwalk.kind_eq.trans (Value.kind_of_ofLiteral? hliteral).symm
    refine ⟨v, hwalk, (coherentFor_relates hkind).congr fun op hop => ?_⟩
    exact selects_comparing hop hfield hliteral hread
  · intro d literal literal' l l' span span' hfield hliteral hliteral' hle row
    obtain ⟨v, -, hread⟩ := exists_walk_read made hfield row
    refine (monotoneFor_relates (v := v) hle).congr (fun op hop => ?_) fun op hop => ?_
    · exact selects_comparing hop hfield hliteral hread
    · exact selects_comparing hop hfield hliteral' hread

/-- The age 41 is compared with itself, and with two more literals of its field. -/
theorem comparisons_coherent_age :
    People.catalog.Made ∧
    (∃ k v l, Walk People.catalog (t := .person) People.ann ["Me", "Age"] k v ∧
      Value.ofLiteral? k "41" = some l ∧
      CoherentFor (fun op => Selects People.catalog .person
        (.comparing ⟨["Me", "Age"]⟩ op "41" default) People.ann) v l) ∧
    MonotoneFor
      (fun op => Selects People.catalog .person
        (.comparing ⟨["Me", "Age"]⟩ op "-7" default) People.ann)
      (fun op => Selects People.catalog .person
        (.comparing ⟨["Me", "Age"]⟩ op "+42" default) People.ann) := by
  have hresolve : Descriptor.kind <$> People.catalog.resolve (People.catalog .person)
      ⟨["Me", "Age"]⟩ = .ok (.integer .i32) := by
    decide +kernel
  cases hfield : People.catalog.resolve (People.catalog .person) ⟨["Me", "Age"]⟩ with
  | error e =>
    rw [hfield] at hresolve
    cases hresolve
  | ok d =>
    rw [hfield] at hresolve
    have hkind : d.kind = .integer .i32 := Except.ok.inj hresolve
    have hread : ∀ n : BoundedInt .i32, ∀ literal, BoundedInt.read? .i32 literal.toList = some n →
        Value.ofLiteral? d.kind literal = some (.integer n) := by
      intro n literal hn
      rw [hkind, Value.ofLiteral?, hn, Option.map_some]
    obtain ⟨-, hcoherent, hmonotone⟩ :=
      comparisons_coherent People.catalog_made .person ⟨["Me", "Age"]⟩
    have hcompiles : ∃ p, compile People.catalog .person
        (.comparing ⟨["Me", "Age"]⟩ .equal "41" default) = .ok p :=
      (exists_compile_comparing (by decide)).mpr
        ⟨d, _, hfield, hread ⟨41, by decide⟩ "41" (by decide +kernel)⟩
    obtain ⟨k, l, hl, hrows⟩ := hcoherent "41" (fun _ => default) hcompiles
    obtain ⟨v, hwalk, hv⟩ := hrows People.ann
    refine ⟨People.catalog_made, ⟨k, v, l, hwalk, hl, hv⟩, ?_⟩
    exact hmonotone d "-7" "+42" _ _ (fun _ => default) (fun _ => default) hfield
      (hread ⟨-7, by decide⟩ "-7" (by decide +kernel))
      (hread ⟨42, by decide⟩ "+42" (by decide +kernel)) (by decide +kernel) People.ann

end Predicate
end RowFilter
