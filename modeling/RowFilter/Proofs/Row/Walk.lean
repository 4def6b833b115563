import RowFilter.Proofs.Row.Index
import RowFilter.Row.Route

/-!
# Walking a path through a row

A route reads rows of unknown type by accessors that check the type first. What a reader of a
filter has in mind is simpler: take the field with this name, go on from the record that it holds,
and at the end take the value. `Walk` is that reading, with typed getters and no check in it.

The two agree for schemas *made* by a builder, each for its own row type (`walk_iff`). Two facts
about a made schema carry the proof, and both come from the builder: every field has a getter of
the right type behind it, and no two fields are found under one name.
-/

set_option autoImplicit false

namespace RowFilter

variable {τ : Type} {Row : τ → Type}

/-! ## What a path resolves to -/

/-- A path resolves to a scalar field of the schema, or through a record field to where the rest of
the path leads from the other schema. -/
theorem Route.resolve_eq_ok {catalog : Catalog Row} {s : Schema Row} {segments : List String}
    {route : Route Row} :
    resolve catalog s segments = .ok route ↔
      (∃ segment f, segments = [segment] ∧ s.field? segment = some (.scalar f) ∧
        f.kind.isScalar = true ∧ route = .here f) ∨
      ∃ segment later f rest, segments = segment :: later ∧
        s.field? segment = some (.record f) ∧
        resolve catalog (catalog f.nested) later = .ok rest ∧ route = .into f rest := by
  constructor
  · intro h
    match segments with
    | [] => cases h
    | [segment] =>
      rw [resolve] at h
      split at h
      · next f hfield =>
        split at h
        · next hscalar =>
          cases h
          exact Or.inl ⟨segment, f, rfl, hfield, hscalar, rfl⟩
        · cases h
      · cases h
    | segment :: next :: later =>
      rw [resolve] at h
      split at h
      · next f hfield =>
        cases hrest : resolve catalog (catalog f.nested) (next :: later) with
        | error e =>
          rw [hrest] at h
          cases h
        | ok rest =>
          rw [hrest] at h
          cases h
          exact Or.inr ⟨segment, next :: later, f, rest, rfl, hfield, hrest, rfl⟩
      · cases h
      · cases h
  · rintro (⟨segment, f, rfl, hfield, hscalar, rfl⟩ | ⟨segment, later, f, rest, rfl, hfield, hrest, rfl⟩)
    · rw [resolve, hfield]
      exact if_pos hscalar
    · obtain ⟨next, later, rfl⟩ : ∃ next later', later = next :: later' := by
        refine List.exists_cons_of_ne_nil ?_
        rintro rfl
        cases hrest
      rw [resolve, hfield]
      show (resolve catalog (catalog f.nested) (next :: later)).map _ = _
      rw [hrest]
      rfl

/-- Where a path leads there is no record. -/
theorem Route.isScalar_kind_of_resolve {catalog : Catalog Row} {s : Schema Row} {segments : List String}
    {route : Route Row} (h : resolve catalog s segments = .ok route) :
    route.kind.isScalar = true := by
  induction route generalizing s segments with
  | here f =>
    rcases resolve_eq_ok.mp h with ⟨_, g, -, -, hscalar, hroute⟩ | ⟨_, _, _, _, -, -, -, hroute⟩
    · cases hroute
      exact hscalar
    · cases hroute
  | into f rest ih =>
    rcases resolve_eq_ok.mp h with ⟨_, _, -, -, -, hroute⟩ | ⟨_, _, _, _, -, -, hrest, hroute⟩
    · cases hroute
    · cases hroute
      exact ih hrest

theorem Catalog.resolve_eq_ok {catalog : Catalog Row} {s : Schema Row} {p : Path}
    {d : Descriptor Row} :
    catalog.resolve s p = .ok d ↔
      Route.resolve catalog s p.segments = .ok d.route ∧ d.path = p := by
  rw [resolve]
  cases h : Route.resolve catalog s p.segments with
  | error segment => simp
  | ok route =>
    obtain ⟨path, route'⟩ := d
    simp [eq_comm, and_comm]

/-! ## Made schemas -/

variable [DecidableEq τ]

/-- The scalar field that reads a value off rows of type `t`. -/
def ScalarField.reading {t : τ} {α : Type} [Cell α] (name : String) (get : Row t → α) :
    ScalarField Row :=
  ⟨name, Cell.kind α, fun r => (r.as? t).map fun row => Cell.toValue (get row)⟩

/-- The record field that leads from rows of type `t` to rows of type `u`. -/
def RecordField.entering {t u : τ} (name : String) (get : Row t → Row u) : RecordField Row :=
  ⟨name, u, fun r => (r.as? t).map fun row => ⟨u, get row⟩⟩

@[simp]
theorem ScalarField.get_reading {t : τ} {α : Type} [Cell α] (name : String) (get : Row t → α)
    (row : Row t) : (reading name get).get ⟨t, row⟩ = some (Cell.toValue (get row)) := by
  simp [reading]

@[simp]
theorem RecordField.project_entering {t u : τ} (name : String) (get : Row t → Row u)
    (row : Row t) : (entering name get).project ⟨t, row⟩ = some ⟨u, get row⟩ := by
  simp [entering]

/-- The field has a getter for rows of type `t` behind it. -/
inductive Field.DeclaredFor (t : τ) : Field Row → Prop where
  | scalar {α : Type} [Cell α] (name : String) (get : Row t → α) :
      DeclaredFor t (.scalar (.reading name get))
  | record {u : τ} (name : String) (get : Row t → Row u) :
      DeclaredFor t (.record (.entering name get))

namespace Schema

/-- The builder was filled by declarations only. -/
inductive Builder.Declared {t : τ} : Builder Row t → Prop where
  | empty (name : String) : Declared (.empty t name)
  | field {b : Builder Row t} {α : Type} [Cell α] (name : String) (get : Row t → α) :
      Declared b → Declared (b.field name get)
  | record {b : Builder Row t} {u : τ} (name : String) (get : Row t → Row u) :
      Declared b → Declared (b.record name u get)

/-- The schema was built by declaring fields of rows of type `t`. -/
def MadeFor (t : τ) (s : Schema Row) : Prop :=
  ∃ b : Builder Row t, b.Declared ∧ b.build = .ok s

theorem Builder.Declared.declaredFor {t : τ} {b : Builder Row t} (h : b.Declared) :
    ∀ f ∈ b.fields, f.DeclaredFor t := by
  induction h with
  | empty name =>
    intro f hf
    exact absurd hf (by simp [Builder.empty])
  | field name get _ ih =>
    intro f hf
    rcases List.mem_append.mp hf with hf | hf
    · exact ih f hf
    · rw [List.mem_singleton.mp hf]
      exact .scalar name get
  | record name get _ ih =>
    intro f hf
    rcases List.mem_append.mp hf with hf | hf
    · exact ih f hf
    · rw [List.mem_singleton.mp hf]
      exact .record name get

theorem MadeFor.declaredFor {t : τ} {s : Schema Row} (h : MadeFor t s) :
    ∀ f ∈ s.fields, f.DeclaredFor t := by
  obtain ⟨b, hb, hs⟩ := h
  rw [(Builder.build_eq_ok.mp hs).2]
  exact hb.declaredFor

theorem MadeFor.nodup_keys {t : τ} {s : Schema Row} (h : MadeFor t s) :
    (s.fields.map Field.key).Nodup := by
  obtain ⟨b, -, hs⟩ := h
  obtain ⟨hnodup, rfl⟩ := Builder.build_eq_ok.mp hs
  exact hnodup

end Schema

/-- Every row type has a schema that was made for it. -/
def Catalog.Made (catalog : Catalog Row) : Prop := ∀ t, (catalog t).MadeFor t

/-! ## Walks -/

/-- Following the segments through the records of a row leads to a field of kind `k`, whose value
in that row is `v`. -/
inductive Walk (catalog : Catalog Row) : {t : τ} → Row t → List String → Kind → Value → Prop where
  | here {t : τ} {row : Row t} {α : Type} [Cell α] {name segment : String} {get : Row t → α} :
      .scalar (.reading name get) ∈ (catalog t).fields →
      Text.lowercase name = Text.lowercase segment →
      Walk catalog row [segment] (Cell.kind α) (Cell.toValue (get row))
  | into {t u : τ} {row : Row t} {name segment : String} {get : Row t → Row u}
      {later : List String} {k : Kind} {v : Value} :
      .record (.entering name get) ∈ (catalog t).fields →
      Text.lowercase name = Text.lowercase segment →
      Walk catalog (get row) later k v →
      Walk catalog row (segment :: later) k v

variable {catalog : Catalog Row}

/-- A walk finds a value of the kind that the field declares. -/
theorem Walk.kind_eq {t : τ} {row : Row t} {segments : List String} {k : Kind} {v : Value}
    (h : Walk catalog row segments k v) : v.kind = k := by
  induction h with
  | here => exact Cell.kind_toValue _
  | into _ _ _ ih => exact ih

/-- A walk leads where the route of its path leads. -/
theorem Walk.resolve (made : catalog.Made) {t : τ} {row : Row t} {segments : List String}
    {k : Kind} {v : Value} (h : Walk catalog row segments k v) :
    ∃ route, Route.resolve catalog (catalog t) segments = .ok route ∧ route.kind = k ∧
      route.read ⟨t, row⟩ = some v := by
  induction h with
  | @here t row α _ name segment get hmem hname =>
    have hfield := (Schema.field?_eq_some_iff (made t).nodup_keys).mpr ⟨hmem, hname⟩
    have hscalar : (Cell.kind α).isScalar = true := by
      rw [← Cell.kind_toValue (get row)]
      exact Value.isScalar_kind _
    refine ⟨.here (.reading name get), ?_, rfl, ScalarField.get_reading name get row⟩
    exact Route.resolve_eq_ok.mpr (Or.inl ⟨segment, _, rfl, hfield, hscalar, rfl⟩)
  | @into t u row name segment get later k v hmem hname hlater ih =>
    have hfield := (Schema.field?_eq_some_iff (made t).nodup_keys).mpr ⟨hmem, hname⟩
    obtain ⟨route, hroute, hkind, hread⟩ := ih
    refine ⟨.into (.entering name get) route, ?_, hkind, ?_⟩
    · exact Route.resolve_eq_ok.mpr (Or.inr ⟨segment, later, _, route, rfl, hfield, hroute, rfl⟩)
    · rw [Route.read, RecordField.project_entering]
      exact hread

/-- Where a path has a route, every row can be walked through. -/
theorem exists_walk_of_resolve (made : catalog.Made) {segments : List String} {t : τ}
    {route : Route Row} (h : Route.resolve catalog (catalog t) segments = .ok route)
    (row : Row t) : ∃ v, Walk catalog row segments route.kind v := by
  induction segments generalizing t route with
  | nil => cases h
  | cons segment later ih =>
    rcases Route.resolve_eq_ok.mp h with ⟨segment', f, hsegments, hfield, -, rfl⟩ |
      ⟨segment', later', f, rest, hsegments, hfield, hrest, rfl⟩
    · cases hsegments
      obtain ⟨hmem, hname⟩ := (Schema.field?_eq_some_iff (made t).nodup_keys).mp hfield
      -- The declaration behind the field gives the getter for the walk to use.
      cases (made t).declaredFor _ hmem with
      | scalar name get => exact ⟨_, .here hmem hname⟩
    · cases hsegments
      obtain ⟨hmem, hname⟩ := (Schema.field?_eq_some_iff (made t).nodup_keys).mp hfield
      cases (made t).declaredFor _ hmem with
      | record name get =>
        obtain ⟨v, hv⟩ := ih hrest (get row)
        exact ⟨v, .into hmem hname hv⟩

/-- **A walk and a route find the same value.** -/
theorem walk_iff (made : catalog.Made) {t : τ} {segments : List String} {route : Route Row}
    (h : Route.resolve catalog (catalog t) segments = .ok route) (row : Row t) {k : Kind}
    {v : Value} :
    Walk catalog row segments k v ↔ route.kind = k ∧ route.read ⟨t, row⟩ = some v := by
  have hwalk : ∀ {k v}, Walk catalog row segments k v →
      route.kind = k ∧ route.read ⟨t, row⟩ = some v := by
    intro k v hw
    obtain ⟨route', hroute, hfound⟩ := hw.resolve made
    rw [h] at hroute
    cases hroute
    exact hfound
  constructor
  · exact hwalk
  · rintro ⟨rfl, hread⟩
    -- Some walk exists, and by the first half it has found the value that was read.
    obtain ⟨v', hv'⟩ := exists_walk_of_resolve made h row
    have hv := (hwalk hv').2
    rw [hread, Option.some.injEq] at hv
    rw [hv]
    exact hv'

end RowFilter
