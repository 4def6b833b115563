import RowFilter.Proofs.Row.People

/-!
# Declaring a schema

A schema is made by a list of declarations. The builder accepts them exactly if no two names have
one lower case, and otherwise names the first that repeats another. What it has accepted it holds
in the order of the declarations, and every name leads to the one field that bears it.
-/

set_option autoImplicit false

namespace RowFilter

namespace Schema

variable {τ : Type} {Row : τ → Type} {t : τ}

/-- One call of a builder for rows of type `t`. A text is a field as any other, read as a string. -/
inductive Declaration (Row : τ → Type) (t : τ) where
  | field {α : Type} [Cell α] (name : String) (get : Row t → α)
  | record (name : String) (u : τ) (get : Row t → Row u)

namespace Declaration

/-- The name as it is written. -/
def name : Declaration Row t → String
  | field name _ => name
  | record name _ _ => name

def key (d : Declaration Row t) : String := Text.lowercase d.name

variable [DecidableEq τ]

/-- The field that is declared. -/
def toField : Declaration Row t → Field Row
  | field name get => .scalar (.reading name get)
  | record name _ get => .record (.entering name get)

@[simp]
theorem name_toField (d : Declaration Row t) : d.toField.name = d.name := by
  cases d <;> rfl

@[simp]
theorem key_toField (d : Declaration Row t) : d.toField.key = d.key := by
  rw [Field.key, name_toField, key]

theorem map_key_toField (ds : List (Declaration Row t)) :
    (ds.map toField).map Field.key = ds.map key := by
  simp

end Declaration

namespace Builder

variable [DecidableEq τ]

def declare (b : Builder Row t) : Declaration Row t → Builder Row t
  | @Declaration.field _ _ _ _ _ name get => b.field name get
  | .record name u get => b.record name u get

/-- The builder after a list of calls. -/
def ofDeclarations (name : String) (ds : List (Declaration Row t)) : Builder Row t :=
  ds.foldl declare (empty t name)

theorem declare_eq_push (b : Builder Row t) (d : Declaration Row t) :
    b.declare d = b.push d.toField := by
  cases d <;> rfl

theorem foldl_declare (b : Builder Row t) (ds : List (Declaration Row t)) :
    ds.foldl declare b = ⟨b.name, b.fields ++ ds.map Declaration.toField⟩ := by
  induction ds generalizing b with
  | nil => simp
  | cons d ds ih =>
    rw [List.foldl_cons, ih, declare_eq_push]
    simp [push]

theorem ofDeclarations_eq (name : String) (ds : List (Declaration Row t)) :
    ofDeclarations name ds = ⟨name, ds.map Declaration.toField⟩ :=
  foldl_declare _ _

end Builder

/-- A declaration repeats one before it exactly if two declarations have names of one lower
case. -/
theorem exists_repeatedAt_iff {ds : List (Declaration Row t)} :
    (∃ j, RepeatedAt (ds.map Declaration.key) j) ↔
      ∃ (i j : Nat) (d d' : Declaration Row t), i ≠ j ∧ ds[i]? = some d ∧ ds[j]? = some d' ∧
        Text.lowercase d.name = Text.lowercase d'.name := by
  have hkey : ∀ {i : Nat} {key : String}, (ds.map Declaration.key)[i]? = some key ↔
      ∃ d, ds[i]? = some d ∧ Text.lowercase d.name = key := by
    intro i key
    rw [List.getElem?_map, Option.map_eq_some_iff]
    rfl
  constructor
  · rintro ⟨j, i, key, hij, hi, hj⟩
    obtain ⟨d, hd, hdkey⟩ := hkey.mp hi
    obtain ⟨d', hd', hdkey'⟩ := hkey.mp hj
    exact ⟨i, j, d, d', Nat.ne_of_lt hij, hd, hd', hdkey.trans hdkey'.symm⟩
  · rintro ⟨i, j, d, d', hij, hd, hd', hsame⟩
    rcases Nat.lt_or_gt_of_ne hij with hlt | hgt
    · exact ⟨j, i, _, hlt, hkey.mpr ⟨d, hd, hsame⟩, hkey.mpr ⟨d', hd', rfl⟩⟩
    · exact ⟨i, j, _, hgt, hkey.mpr ⟨d', hd', rfl⟩, hkey.mpr ⟨d, hd, hsame⟩⟩

/-- The schema holds the fields declared and finds each of them. -/
structure Declares [DecidableEq τ] (s : Schema Row) (name : String) (ds : List (Declaration Row t)) :
    Prop where
  name_eq : s.name = name
  fields_eq : s.fields = ds.map Declaration.toField
  /-- The index leads to fields only. -/
  place_lt : ∀ key place, s.index.lookup key = some place → place < s.fields.length
  /-- A name is borne by one field. -/
  unique : ∀ (name : String) (i j : Nat) (f g : Field Row), s.fields[i]? = some f →
    s.fields[j]? = some g → f.key = Text.lowercase name → g.key = Text.lowercase name → i = j
  /-- The field that bears the name, if there is one. -/
  field?_eq_some : ∀ (name : String) (f : Field Row),
    s.field? name = some f ↔ f ∈ s.fields ∧ f.key = Text.lowercase name
  field?_eq_none : ∀ name : String,
    s.field? name = none ↔ ∀ f ∈ s.fields, f.key ≠ Text.lowercase name
  /-- A field is found by its own name, at its own place. -/
  field?_name : ∀ (place : Nat) (f : Field Row), s.fields[place]? = some f →
    s.place? f.name = some place ∧ s.field? f.name = some f

variable [DecidableEq τ]

theorem declares_of_build_eq_ok {name : String} {ds : List (Declaration Row t)} {s : Schema Row}
    (h : (Builder.ofDeclarations name ds).build = .ok s) : s.Declares name ds := by
  rw [Builder.ofDeclarations_eq] at h
  obtain ⟨hnodup, hs⟩ := Builder.build_eq_ok.mp h
  have hfields : s.fields = ds.map Declaration.toField := by rw [hs]
  rw [← hfields] at hnodup
  have hindex := indexes_index hnodup
  have hfound : ∀ (name : String) (f : Field Row),
      s.field? name = some f ↔ f ∈ s.fields ∧ f.key = Text.lowercase name :=
    fun name f => field?_eq_some_iff hnodup
  refine ⟨by rw [hs], hfields, ?_, ?_, hfound, ?_, ?_⟩
  · intro key place hplace
    simpa using (List.getElem?_eq_some_iff.mp ((hindex key place).mp hplace)).1
  · intro name i j f g hi hj hf hg
    -- Both places are the one that the index has for the name.
    have hplace := (place?_eq_some_iff hnodup).mpr ⟨f, hi, hf⟩
    rw [(place?_eq_some_iff hnodup).mpr ⟨g, hj, hg⟩] at hplace
    exact (Option.some.inj hplace).symm
  · intro name
    rw [Option.eq_none_iff_forall_ne_some]
    refine forall_congr' fun f => ?_
    rw [ne_eq, hfound, not_and]
  · intro place f hf
    exact ⟨(place?_eq_some_iff hnodup).mpr ⟨f, hf, rfl⟩,
      (hfound _ _).mpr ⟨List.mem_of_getElem? hf, rfl⟩⟩

/-- **A builder refuses the first name that repeats another, and a schema finds every field that
it accepts**, for any list of declarations. -/
theorem build_ofDeclarations (name : String) (ds : List (Declaration Row t)) :
    ((∃ e, (Builder.ofDeclarations name ds).build = .error e) ↔
      ∃ (i j : Nat) (d d' : Declaration Row t), i ≠ j ∧ ds[i]? = some d ∧ ds[j]? = some d' ∧
        Text.lowercase d.name = Text.lowercase d'.name) ∧
    (∀ e, (Builder.ofDeclarations name ds).build = .error e ↔
      ∃ j d, ds[j]? = some d ∧ RepeatedAt (ds.map Declaration.key) j ∧
        (∀ k < j, ¬ RepeatedAt (ds.map Declaration.key) k) ∧ e = .duplicateField name d.name) ∧
    ∀ s, (Builder.ofDeclarations name ds).build = .ok s → s.Declares name ds := by
  refine ⟨?_, ?_, fun s => declares_of_build_eq_ok⟩
  · rw [← exists_repeatedAt_iff]
    constructor
    · rintro ⟨e, he⟩
      obtain ⟨j, f, -, hrepeated, -⟩ := Builder.build_eq_error.mp he
      rw [Builder.ofDeclarations_eq, Declaration.map_key_toField] at hrepeated
      exact ⟨j, hrepeated⟩
    · rintro ⟨j, hrepeated⟩
      cases h : (Builder.ofDeclarations name ds).build with
      | error e => exact ⟨e, rfl⟩
      | ok s =>
        have hnodup := (Builder.build_eq_ok.mp h).1
        rw [Builder.ofDeclarations_eq, Declaration.map_key_toField] at hnodup
        exact absurd hrepeated (nodup_iff_not_repeatedAt.mp hnodup j)
  · intro e
    rw [Builder.ofDeclarations_eq, Builder.build_eq_error, Declaration.map_key_toField]
    simp

end Schema

namespace People

open Schema

def declarations : List (Declaration Rows .person) :=
  [.field "Name" Person.name, .field "Age" Person.age, .record "Address" .address Person.address]

/-- Two more fields of a name that there is already. -/
def doubled : List (Declaration Rows .person) :=
  declarations ++ [.field "NAME" Person.name, .field "name" Person.name]

/-- The name in capitals is the first that repeats another, and it is refused as it is written. -/
theorem build_ofDeclarations_people :
    (Builder.ofDeclarations "Person" doubled).build = .error (.duplicateField "Person" "NAME") ∧
    ∃ s, (Builder.ofDeclarations "Person" declarations).build = .ok s ∧
      s.Declares "Person" declarations := by
  constructor
  · refine ((build_ofDeclarations "Person" doubled).2.1 _).mpr ⟨3, _, rfl, ?_, ?_, rfl⟩
    · decide +kernel
    · decide +kernel
  · have hok : (Builder.ofDeclarations "Person" declarations).build = .ok _ :=
      Builder.build_eq_ok.mpr ⟨by decide +kernel, rfl⟩
    exact ⟨_, hok, (build_ofDeclarations "Person" declarations).2.2 _ hok⟩

end People
end RowFilter
