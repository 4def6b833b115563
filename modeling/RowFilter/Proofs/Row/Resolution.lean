import Mathlib.Logic.Function.Iterate
import RowFilter.Proofs.Row.People
import RowFilter.Proofs.Traversal

/-!
# Resolution is one pass

A path resolves by recursion: the first segment names a record field, and the rest of the path is
resolved in the schema of that record. The same can be done in one pass from left to right that
keeps the fields found so far (`Catalog.pass`). Such a pass knows the schema to look in only by a
look back at the last field, it finds out that a field is no record one segment late, and it asks
only at the end whether the last field holds a value. `map_fields_resolve` says that the two agree
on every path, in what they find and in which segment they blame, whatever the schemas are and
however they are nested in one another; and a row is read along the fields that the pass has found.

`resolve_recursive` puts this together with the law of the recursion, stated for schemas that a
builder has accepted: there a segment finds a field of the schema and no other.
-/

set_option autoImplicit false

namespace RowFilter

variable {τ : Type} {Row : τ → Type}

/-! ## The pass -/

namespace Field

/-- The inner row, if the field holds one. -/
def project? : Field Row → SomeRow Row → Option (SomeRow Row)
  | scalar _, _ => none
  | record f, r => f.project r

/-- The value, if the field holds one. -/
def get? : Field Row → SomeRow Row → Option Value
  | scalar f, r => f.get r
  | record _, _ => none

/-- Goes through all the fields but the last and reads the value of the last one. -/
def readAlong (fields : List (Field Row)) (r : SomeRow Row) : Option Value := do
  let inner ← fields.dropLast.foldlM (fun r f => f.project? r) r
  (← fields.getLast?).get? inner

/-- Is there a last field, and does it hold a value? -/
def endInValue (fields : List (Field Row)) : Bool :=
  fields.getLast?.any fun f => f.kind.isScalar

theorem endInValue_record_cons (f : RecordField Row) (fields : List (Field Row)) :
    endInValue (.record f :: fields) = endInValue fields := by
  cases fields with
  | nil => rfl
  | cons g later => rw [endInValue, List.getLast?_cons_cons, endInValue]

end Field

namespace Catalog

variable (catalog : Catalog Row)

/-- The schema to look the next segment up in: the first one while no field has been found, and
then that of the last field, if the field is a record. -/
def schemaAfter (s : Schema Row) (found : List (Field Row)) : Option (Schema Row) :=
  match found.getLast? with
  | none => some s
  | some f => f.nested?.map catalog

def passStep (s : Schema Row) (found : List (Field Row)) (segment : String) :
    Except String (List (Field Row)) :=
  match (catalog.schemaAfter s found).bind (·.field? segment) with
  | some f => .ok (found ++ [f])
  | none => .error segment

/-- Finds a field for each segment, and asks at the end whether the last field holds a value. -/
def pass (s : Schema Row) (segments : List String) : Except String (List (Field Row)) := do
  let found ← segments.foldlM (catalog.passStep s) []
  if Field.endInValue found then .ok found else .error (segments.getLastD "")

variable {catalog : Catalog Row}

/-- Once a field has been found, neither the first schema nor the earlier fields matter. -/
theorem schemaAfter_append (s s' : Schema Row) (front : List (Field Row))
    {found : List (Field Row)} (hfound : found ≠ []) :
    catalog.schemaAfter s (front ++ found) = catalog.schemaAfter s' found := by
  obtain ⟨f, hlast⟩ := Option.ne_none_iff_exists'.mp (mt List.getLast?_eq_none_iff.mp hfound)
  rw [schemaAfter, schemaAfter, List.getLast?_append, hlast]
  rfl

theorem foldlM_passStep_append (s s' : Schema Row) (front : List (Field Row))
    {found : List (Field Row)} (hfound : found ≠ []) (segments : List String) :
    segments.foldlM (catalog.passStep s) (front ++ found) =
      (front ++ ·) <$> segments.foldlM (catalog.passStep s') found := by
  induction segments generalizing found with
  | nil => rfl
  | cons segment later ih =>
    rw [List.foldlM_cons, List.foldlM_cons, passStep, passStep,
      schemaAfter_append s s' front hfound]
    cases (catalog.schemaAfter s' found).bind (·.field? segment) with
    | none => rfl
    | some f =>
      show later.foldlM (catalog.passStep s) (front ++ found ++ [f]) = _
      rw [List.append_assoc]
      exact ih (by simp)

/-- Behind a record field the pass goes on as if it started in the schema of the record. -/
theorem foldlM_passStep_record (s : Schema Row) (f : RecordField Row) (next : String)
    (later : List String) :
    (next :: later).foldlM (catalog.passStep s) [.record f] =
      (.record f :: ·) <$> (next :: later).foldlM (catalog.passStep (catalog f.nested)) [] := by
  have hschema : catalog.schemaAfter s [.record f] =
      catalog.schemaAfter (catalog f.nested) [] := rfl
  rw [List.foldlM_cons, List.foldlM_cons, passStep, passStep, hschema]
  cases (catalog.schemaAfter (catalog f.nested) []).bind (·.field? next) with
  | none => rfl
  | some g =>
    exact foldlM_passStep_append s (catalog f.nested) [.record f] (List.cons_ne_nil g []) later

/-! ### The first segment of a pass -/

section

variable {s : Schema Row} {segment : String}

theorem passStep_nil_of_some {f : Field Row} (h : s.field? segment = some f) :
    catalog.passStep s [] segment = .ok [f] := by
  have hfield : (catalog.schemaAfter s []).bind (·.field? segment) = some f := h
  rw [passStep, hfield]
  rfl

theorem pass_of_none (h : s.field? segment = none) (later : List String) :
    catalog.pass s (segment :: later) = .error segment := by
  have hfield : (catalog.schemaAfter s []).bind (·.field? segment) = none := h
  rw [pass, List.foldlM_cons, passStep, hfield]
  rfl

theorem pass_singleton {f : Field Row} (h : s.field? segment = some f) :
    catalog.pass s [segment] = if f.kind.isScalar then .ok [f] else .error segment := by
  rw [pass, List.foldlM_cons, passStep_nil_of_some h]
  rfl

/-- A scalar field is found out when the next segment is looked up. -/
theorem pass_scalar {f : ScalarField Row} (h : s.field? segment = some (.scalar f)) (next : String)
    (later : List String) : catalog.pass s (segment :: next :: later) = .error next := by
  rw [pass, List.foldlM_cons, passStep_nil_of_some h]
  rfl

theorem pass_record {f : RecordField Row} (h : s.field? segment = some (.record f)) (next : String)
    (later : List String) :
    catalog.pass s (segment :: next :: later) =
      (.record f :: ·) <$> catalog.pass (catalog f.nested) (next :: later) := by
  rw [pass, pass, List.foldlM_cons, passStep_nil_of_some h]
  show (next :: later).foldlM (catalog.passStep s) [.record f] >>= _ = _
  rw [foldlM_passStep_record]
  cases (next :: later).foldlM (catalog.passStep (catalog f.nested)) [] with
  | error e => rfl
  | ok found =>
    show (if Field.endInValue (.record f :: found) then Except.ok _ else .error _) = _
    rw [Field.endInValue_record_cons, List.getLastD_cons]
    show _ = (Field.record f :: ·) <$>
      (if Field.endInValue found then Except.ok found else .error _)
    split <;> rfl

end

/-- **The recursion and the pass agree.** They find the same fields for a path, or blame the same
segment of it. -/
theorem map_fields_resolve (s : Schema Row) (segments : List String) :
    Route.fields <$> Route.resolve catalog s segments = catalog.pass s segments := by
  induction segments generalizing s with
  | nil => rfl
  | cons segment later ih =>
    cases hfield : s.field? segment with
    | none =>
      rw [pass_of_none hfield]
      cases later <;> rw [Route.resolve, hfield] <;> rfl
    | some f =>
      cases later with
      | nil =>
        rw [pass_singleton hfield, Route.resolve, hfield]
        cases f with
        | scalar f =>
          show Route.fields <$> (if f.kind.isScalar then Except.ok (Route.here f) else .error _) =
            if f.kind.isScalar then _ else _
          split <;> rfl
        | record f => rfl
      | cons next later =>
        cases f with
        | scalar f =>
          rw [pass_scalar hfield, Route.resolve, hfield]
          rfl
        | record f =>
          rw [pass_record hfield, Route.resolve, hfield, ← ih]
          show Route.fields <$> (Route.resolve catalog _ _).map (.into f) = _
          cases Route.resolve catalog (catalog f.nested) (next :: later) <;> rfl

end Catalog

/-! ## Reading along fields -/

theorem Route.fields_ne_nil (route : Route Row) : route.fields ≠ [] := by
  cases route <;> exact List.cons_ne_nil _ _

theorem Field.readAlong_record_cons (f : RecordField Row) {fields : List (Field Row)}
    (hfields : fields ≠ []) (r : SomeRow Row) :
    readAlong (.record f :: fields) r = (f.project r).bind (readAlong fields) := by
  obtain ⟨g, later, rfl⟩ := List.exists_cons_of_ne_nil hfields
  rw [readAlong, List.dropLast_cons_cons, List.foldlM_cons, List.getLast?_cons_cons]
  exact Option.bind_assoc _ _ _

/-- A row is read along the fields of the route. -/
theorem Route.read_eq_readAlong (route : Route Row) (r : SomeRow Row) :
    route.read r = Field.readAlong route.fields r := by
  induction route generalizing r with
  | here f => rfl
  | into f rest ih =>
    rw [fields, Field.readAlong_record_cons f rest.fields_ne_nil, read, funext ih]

/-! ## The law of the recursion -/

namespace Schema

/-- A builder has accepted the fields of the schema. -/
def Accepted (s : Schema Row) : Prop := ∃ (t : τ) (b : Builder Row t), b.build = .ok s

/-- The schema has this field, and the segment is its name up to letter case. -/
def Has (s : Schema Row) (segment : String) (f : Field Row) : Prop :=
  f ∈ s.fields ∧ Text.lowercase f.name = Text.lowercase segment

theorem Accepted.field?_eq_some {s : Schema Row} (h : s.Accepted) {segment : String}
    {f : Field Row} : s.field? segment = some f ↔ s.Has segment f := by
  obtain ⟨t, b, hb⟩ := h
  obtain ⟨hnodup, rfl⟩ := Builder.build_eq_ok.mp hb
  exact field?_eq_some_iff hnodup

theorem Accepted.field?_eq_none {s : Schema Row} (h : s.Accepted) {segment : String} :
    s.field? segment = none ↔ ∀ f, ¬ s.Has segment f := by
  rw [Option.eq_none_iff_forall_ne_some]
  exact forall_congr' fun f => not_congr h.field?_eq_some

end Schema

namespace Catalog

/-- A path of one segment leads to the field of that name, if it is no record. -/
structure LastSegment (catalog : Catalog Row) (s : Schema Row) (segment : String) : Prop where
  resolves : (∃ d, catalog.resolve s ⟨[segment]⟩ = .ok d) ↔
    ∃ f, s.Has segment f ∧ f.kind ≠ .record
  /-- The descriptor has the kind of the field and reads with its getter. -/
  ok : ∀ d, catalog.resolve s ⟨[segment]⟩ = .ok d →
    ∃ f, s.Has segment (.scalar f) ∧ d.kind = f.kind ∧ ∀ r, d.read r = f.get r
  error : ∀ e, catalog.resolve s ⟨[segment]⟩ = .error e →
    e = .unknownField (Path.toString ⟨[segment]⟩) segment

/-- The segment to blame where a segment and the path behind it lead nowhere. -/
inductive Blames (catalog : Catalog Row) (s : Schema Row) (segment : String) (q : List String) :
    String → Prop
  | unknown : (∀ f, ¬ s.Has segment f) → Blames catalog s segment q segment
  | scalar {f : ScalarField Row} {next : String} : s.Has segment (.scalar f) →
      q.head? = some next → Blames catalog s segment q next
  /-- What the schema of the record says about the rest of the path. -/
  | record {f : RecordField Row} {blamed : String} : s.Has segment (.record f) →
      catalog.resolve (catalog f.nested) ⟨q⟩ = .error (.unknownField (Path.toString ⟨q⟩) blamed) →
      Blames catalog s segment q blamed

/-- A longer path leads through the record field of that name to where its rest leads from there. -/
structure FirstSegment (catalog : Catalog Row) (s : Schema Row) (segment : String)
    (q : List String) : Prop where
  resolves : (∃ d, catalog.resolve s ⟨segment :: q⟩ = .ok d) ↔
    ∃ f, s.Has segment (.record f) ∧ ∃ d, catalog.resolve (catalog f.nested) ⟨q⟩ = .ok d
  /-- The kind is that of the rest, which reads what the field projects. -/
  ok : ∀ d, catalog.resolve s ⟨segment :: q⟩ = .ok d →
    ∃ f d', s.Has segment (.record f) ∧ catalog.resolve (catalog f.nested) ⟨q⟩ = .ok d' ∧
      d.kind = d'.kind ∧ ∀ r, d.read r = (f.project r).bind d'.read
  error : ∀ e, catalog.resolve s ⟨segment :: q⟩ = .error e ↔
    ∃ blamed, catalog.Blames s segment q blamed ∧
      e = .unknownField (Path.toString ⟨segment :: q⟩) blamed

end Catalog

/-- The row reached by going into the field so many times. -/
def RecordField.projectTimes (f : RecordField Row) : Nat → SomeRow Row → Option (SomeRow Row)
  | 0, r => some r
  | n + 1, r => (f.project r).bind (f.projectTimes n)

/-- A path with segments in front that lead back to the same schema leads where it leads without
them. -/
structure Catalog.SelfSegments (catalog : Catalog Row) (s : Schema Row) (f : RecordField Row)
    (front q : List String) : Prop where
  ok : ∀ d, catalog.resolve s ⟨q⟩ = .ok d → ∃ d', catalog.resolve s ⟨front ++ q⟩ = .ok d' ∧
    d'.kind = d.kind ∧ (∀ r, d'.read r = (f.projectTimes front.length r).bind d.read) ∧
    ∀ r, f.project r = some r → d'.read r = d.read r
  error : ∀ blamed, catalog.resolve s ⟨q⟩ = .error (.unknownField (Path.toString ⟨q⟩) blamed) →
    catalog.resolve s ⟨front ++ q⟩ = .error (.unknownField (Path.toString ⟨front ++ q⟩) blamed)

namespace Catalog

variable {catalog : Catalog Row} {s : Schema Row}

theorem resolve_eq_error {p : Path} {e : CompileError} :
    catalog.resolve s p = .error e ↔ ∃ blamed,
      Route.resolve catalog s p.segments = .error blamed ∧ e = .unknownField p.toString blamed := by
  rw [resolve]
  cases Route.resolve catalog s p.segments with
  | error blamed => simp [eq_comm]
  | ok route => simp

/-- What goes wrong behind a first segment with more segments to come. -/
theorem route_eq_error {segment next blamed : String} {later : List String} :
    Route.resolve catalog s (segment :: next :: later) = .error blamed ↔
      (s.field? segment = none ∧ blamed = segment) ∨
      (∃ f, s.field? segment = some (.scalar f) ∧ blamed = next) ∨
      ∃ f, s.field? segment = some (.record f) ∧
        Route.resolve catalog (catalog f.nested) (next :: later) = .error blamed := by
  rw [Route.resolve]
  cases s.field? segment with
  | none => simp [eq_comm]
  | some f =>
    cases f with
    | scalar f => simp [eq_comm]
    | record f =>
      have hmap : (Route.resolve catalog (catalog f.nested) (next :: later)).map
            (Route.into f) = .error blamed ↔
          Route.resolve catalog (catalog f.nested) (next :: later) = .error blamed := map_eq_error
      simp [hmap]

theorem lastSegment (accepted : s.Accepted) (segment : String) : catalog.LastSegment s segment := by
  have hok : ∀ d, catalog.resolve s ⟨[segment]⟩ = .ok d → ∃ f, s.field? segment = some (.scalar f) ∧
      f.kind.isScalar = true ∧ d.route = .here f := by
    intro d hd
    rcases Route.resolve_eq_ok.mp (resolve_eq_ok.mp hd).1 with
      ⟨_, f, hsegments, hfield, hscalar, hroute⟩ | ⟨_, later, f, rest, hsegments, -, hrest, -⟩
    · cases hsegments
      exact ⟨f, hfield, hscalar, hroute⟩
    · cases hsegments
      cases hrest
  constructor
  case resolves =>
    constructor
    · rintro ⟨d, hd⟩
      obtain ⟨f, hfield, hscalar, -⟩ := hok d hd
      exact ⟨.scalar f, accepted.field?_eq_some.mp hfield, of_decide_eq_true hscalar⟩
    · rintro ⟨f, hf, hkind⟩
      cases f with
      | record f => exact absurd rfl hkind
      | scalar f =>
        have hroute : Route.resolve catalog s [segment] = .ok (.here f) :=
          Route.resolve_eq_ok.mpr (.inl ⟨segment, f, rfl, accepted.field?_eq_some.mpr hf,
            decide_eq_true hkind, rfl⟩)
        exact ⟨⟨_, _⟩, resolve_eq_ok.mpr ⟨hroute, rfl⟩⟩
  case ok =>
    intro d hd
    obtain ⟨f, hfield, -, hroute⟩ := hok d hd
    refine ⟨f, accepted.field?_eq_some.mp hfield, ?_, fun r => ?_⟩
    · rw [Descriptor.kind, hroute, Route.kind]
    · rw [Descriptor.read, hroute, Route.read]
  case error =>
    intro e he
    obtain ⟨blamed, hroute, rfl⟩ := resolve_eq_error.mp he
    rw [Route.resolve] at hroute
    split at hroute
    · split at hroute
      · cases hroute
      · cases hroute
        rfl
    · cases hroute
      rfl

theorem firstSegment (accepted : s.Accepted) (segment : String) {q : List String} (hq : q ≠ []) :
    catalog.FirstSegment s segment q := by
  obtain ⟨next, later, rfl⟩ := List.exists_cons_of_ne_nil hq
  have hok : ∀ d, catalog.resolve s ⟨segment :: next :: later⟩ = .ok d ↔
      ∃ f rest, s.Has segment (.record f) ∧
        Route.resolve catalog (catalog f.nested) (next :: later) = .ok rest ∧
        d = ⟨⟨segment :: next :: later⟩, .into f rest⟩ := by
    intro d
    obtain ⟨path, route⟩ := d
    rw [resolve_eq_ok, Route.resolve_eq_ok]
    constructor
    · rintro ⟨⟨_, f, hsegments, -⟩ | ⟨_, _, f, rest, hsegments, hfield, hrest, hroute⟩, hpath⟩
      · cases hsegments
      · cases hsegments
        cases hpath
        cases hroute
        exact ⟨f, rest, accepted.field?_eq_some.mp hfield, hrest, rfl⟩
    · rintro ⟨f, rest, hf, hrest, hd⟩
      cases hd
      exact ⟨.inr ⟨segment, _, f, rest, rfl, accepted.field?_eq_some.mpr hf, hrest, rfl⟩, rfl⟩
  constructor
  case resolves =>
    constructor
    · rintro ⟨d, hd⟩
      obtain ⟨f, rest, hf, hrest, -⟩ := (hok d).mp hd
      exact ⟨f, hf, ⟨_, rest⟩, resolve_eq_ok.mpr ⟨hrest, rfl⟩⟩
    · rintro ⟨f, hf, d, hd⟩
      exact ⟨_, (hok _).mpr ⟨f, d.route, hf, (resolve_eq_ok.mp hd).1, rfl⟩⟩
  case ok =>
    intro d hd
    obtain ⟨f, rest, hf, hrest, rfl⟩ := (hok d).mp hd
    exact ⟨f, ⟨_, rest⟩, hf, resolve_eq_ok.mpr ⟨hrest, rfl⟩, rfl, fun r => rfl⟩
  case error =>
    intro e
    rw [resolve_eq_error]
    constructor
    · rintro ⟨blamed, hroute, rfl⟩
      refine ⟨blamed, ?_, rfl⟩
      rcases route_eq_error.mp hroute with ⟨hnone, rfl⟩ | ⟨f, hf, rfl⟩ | ⟨f, hf, hrest⟩
      · exact .unknown (accepted.field?_eq_none.mp hnone)
      · exact .scalar (accepted.field?_eq_some.mp hf) rfl
      · exact .record (accepted.field?_eq_some.mp hf) (resolve_eq_error.mpr ⟨blamed, hrest, rfl⟩)
    · rintro ⟨blamed, hblames, rfl⟩
      refine ⟨blamed, route_eq_error.mpr ?_, rfl⟩
      cases hblames with
      | unknown hnone => exact .inl ⟨accepted.field?_eq_none.mpr hnone, rfl⟩
      | scalar hf hnext =>
        cases hnext
        exact .inr (.inl ⟨_, accepted.field?_eq_some.mpr hf, rfl⟩)
      | record hf hrest =>
        obtain ⟨_, hroute, herror⟩ := resolve_eq_error.mp hrest
        cases herror
        exact .inr (.inr ⟨_, accepted.field?_eq_some.mpr hf, hroute⟩)

/-- One segment in front that leads back to the same schema. -/
theorem route_self {f : RecordField Row} (hself : catalog f.nested = s) {segment : String}
    (hfield : s.field? segment = some (.record f)) {q : List String} (hq : q ≠ []) :
    Route.resolve catalog s (segment :: q) = (Route.resolve catalog s q).map (.into f) := by
  obtain ⟨next, later, rfl⟩ := List.exists_cons_of_ne_nil hq
  rw [Route.resolve, hfield, ← hself]

/-- Segments in front that lead back to the same schema add their field to the route each. -/
theorem route_append_self {f : RecordField Row} (hself : catalog f.nested = s)
    {front q : List String} (hfront : ∀ segment ∈ front, s.field? segment = some (.record f))
    (hq : q ≠ []) :
    Route.resolve catalog s (front ++ q) =
      (Route.resolve catalog s q).map (Route.into f)^[front.length] := by
  induction front with
  | nil => cases h : Route.resolve catalog s q <;> exact h
  | cons segment front ih =>
    have hne : front ++ q ≠ [] := List.append_ne_nil_of_right_ne_nil front hq
    rw [List.cons_append, route_self hself (hfront segment List.mem_cons_self) hne,
      ih fun segment' h => hfront segment' (List.mem_cons_of_mem segment h), List.length_cons,
      Function.iterate_succ']
    cases Route.resolve catalog s q <;> rfl

end Catalog

namespace Route

theorem kind_iterate_into (f : RecordField Row) (n : Nat) (route : Route Row) :
    ((into f)^[n] route).kind = route.kind := by
  induction n with
  | zero => rfl
  | succ n ih => rw [Function.iterate_succ_apply', kind, ih]

theorem read_iterate_into (f : RecordField Row) (n : Nat) (route : Route Row) (r : SomeRow Row) :
    ((into f)^[n] route).read r = (f.projectTimes n r).bind route.read := by
  induction n generalizing r with
  | zero => rfl
  | succ n ih =>
    rw [Function.iterate_succ_apply', read, RecordField.projectTimes, Option.bind_assoc, funext ih]

end Route

/-- A row that is its own inner row is reached by going in any number of times. -/
theorem RecordField.projectTimes_self {f : RecordField Row} {r : SomeRow Row}
    (h : f.project r = some r) (n : Nat) : f.projectTimes n r = some r := by
  induction n with
  | zero => rfl
  | succ n ih => rw [projectTimes, h, Option.bind_some, ih]

namespace Catalog

variable {catalog : Catalog Row} {s : Schema Row}

theorem selfSegments (accepted : s.Accepted) {f : RecordField Row} (hself : catalog f.nested = s)
    {front q : List String} (hfront : ∀ segment ∈ front, s.Has segment (.record f)) (hq : q ≠ []) :
    catalog.SelfSegments s f front q := by
  have hroute := route_append_self hself
    (fun segment h => accepted.field?_eq_some.mpr (hfront segment h)) hq
  constructor
  case ok =>
    intro d hd
    have hread : ∀ r, ((Route.into f)^[front.length] d.route).read r =
        (f.projectTimes front.length r).bind d.read :=
      Route.read_iterate_into f front.length d.route
    rw [(resolve_eq_ok.mp hd).1] at hroute
    refine ⟨⟨⟨front ++ q⟩, (Route.into f)^[front.length] d.route⟩, resolve_eq_ok.mpr ⟨hroute, rfl⟩,
      Route.kind_iterate_into f front.length d.route, hread, fun r hr => ?_⟩
    exact (hread r).trans (by rw [RecordField.projectTimes_self hr, Option.bind_some])
  case error =>
    intro blamed h
    obtain ⟨_, hblamed, herror⟩ := resolve_eq_error.mp h
    cases herror
    rw [hblamed] at hroute
    exact resolve_eq_error.mpr ⟨blamed, hroute, rfl⟩

/-- **Resolution is the recursive walk it stands for.** For a schema that a builder has accepted,
the field that the first segment names decides what a path leads to and which segment is to blame
where it leads nowhere, segments through a record of the schema's own type change nothing but the
row that is read, and the walk finds and blames what one pass over the path does and reads along
what it has found. -/
theorem resolve_recursive (accepted : s.Accepted) :
    (∀ segment, catalog.LastSegment s segment) ∧
    (∀ segment q, q ≠ [] → catalog.FirstSegment s segment q) ∧
    (∀ f front q, catalog f.nested = s → (∀ segment ∈ front, s.Has segment (.record f)) → q ≠ [] →
      catalog.SelfSegments s f front q) ∧
    (∀ p : Path, (fun d => d.route.fields) <$> catalog.resolve s p =
      (catalog.pass s p.segments).mapError (.unknownField p.toString)) ∧
    ∀ (p : Path) (d : Descriptor Row), catalog.resolve s p = .ok d →
      d.path = p ∧ ∀ r, d.read r = Field.readAlong d.route.fields r := by
  refine ⟨lastSegment accepted, fun segment q => firstSegment accepted segment,
    fun f front q hself hfront => selfSegments accepted hself hfront, fun p => ?_, fun p d hd => ?_⟩
  · rw [← map_fields_resolve, resolve]
    cases Route.resolve catalog s p.segments <;> rfl
  · exact ⟨(resolve_eq_ok.mp hd).2, Route.read_eq_readAlong d.route⟩

/-- The self record is gone through twice, under two spellings. -/
theorem resolve_recursive_twice :
    (People.catalog .person).Accepted ∧
    ∃ d d', People.catalog.resolve (People.catalog .person) ⟨["Address", "number"]⟩ = .ok d ∧
      People.catalog.resolve (People.catalog .person) ⟨["ME", "me", "Address", "number"]⟩ = .ok d' ∧
      d'.kind = d.kind ∧ d'.read ⟨.person, People.ann⟩ = d.read ⟨.person, People.ann⟩ := by
  have accepted : (People.catalog .person).Accepted := by
    obtain ⟨b, -, hb⟩ := People.catalog_made .person
    exact ⟨.person, b, hb⟩
  have hfront : ∀ segment ∈ ["ME", "me"],
      (People.catalog .person).Has segment (.record People.me) := by
    intro segment hsegment
    refine ⟨List.mem_of_getElem? (i := 3) rfl, ?_⟩
    rcases List.mem_pair.mp hsegment with rfl | rfl <;> decide +kernel
  have hok : (People.catalog.resolve (People.catalog .person) ⟨["Address", "number"]⟩).isOk =
      true := by
    decide +kernel
  cases hd : People.catalog.resolve (People.catalog .person) ⟨["Address", "number"]⟩ with
  | error e =>
    rw [hd] at hok
    cases hok
  | ok d =>
    have hself := (resolve_recursive accepted).2.2.1 People.me ["ME", "me"] ["Address", "number"]
      rfl hfront (List.cons_ne_nil _ _)
    obtain ⟨d', hd', hkind, -, hread⟩ := hself.ok d hd
    exact ⟨accepted, d, d', rfl, hd', hkind, hread _ rfl⟩

end Catalog

end RowFilter
