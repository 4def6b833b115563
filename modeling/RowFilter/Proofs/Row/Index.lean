import Mathlib.Data.List.Nodup
import RowFilter.Row.Schema

/-!
# The index of a schema

A builder enters the keys of its fields into an index, one after the other, and stops at the first
key that is there already. After each step the index holds the keys of the fields so far, each with
its place (`Indexes`). Therefore it is right to ask the index, and not the fields, whether a key is
repeated, and the field refused is the first repeated one. At the end, lookups rely on the same.
-/

set_option autoImplicit false

namespace RowFilter.Schema

variable {τ : Type} {Row : τ → Type} {index : List (String × Nat)} {front fields : List (Field Row)}

/-! ## Repeated keys -/

/-- The key at place `j` is at a place before it, too. -/
def RepeatedAt (keys : List String) (j : Nat) : Prop :=
  ∃ i key, i < j ∧ keys[i]? = some key ∧ keys[j]? = some key

instance (keys : List String) (j : Nat) : Decidable (RepeatedAt keys j) :=
  decidable_of_iff (∃ i, i < j ∧ ∃ key ∈ keys, keys[i]? = some key ∧ keys[j]? = some key) <|
    exists_congr fun _ => by
      constructor
      · rintro ⟨hij, key, -, hi, hj⟩
        exact ⟨key, hij, hi, hj⟩
      · rintro ⟨key, hij, hi, hj⟩
        exact ⟨hij, key, List.mem_of_getElem? hj, hi, hj⟩

theorem nodup_iff_not_repeatedAt {keys : List String} :
    keys.Nodup ↔ ∀ j, ¬ RepeatedAt keys j := by
  rw [List.nodup_iff_getElem?_ne_getElem?]
  constructor
  · rintro h j ⟨i, key, hij, hi, hj⟩
    exact h i j hij (List.getElem?_eq_some_iff.mp hj).1 (hi.trans hj.symm)
  · intro h i j hij hj heq
    have hkey := List.getElem?_eq_getElem hj
    exact h j ⟨i, keys[j], hij, heq.trans hkey, hkey⟩

/-- Whether a key is repeated does not depend on the keys behind it. -/
theorem repeatedAt_append {before after : List String} {j : Nat} (hj : j < before.length) :
    RepeatedAt (before ++ after) j ↔ RepeatedAt before j := by
  refine exists_congr fun i => exists_congr fun key => and_congr_right fun hij => ?_
  rw [List.getElem?_append_left (Nat.lt_trans hij hj), List.getElem?_append_left hj]

/-! ## What the index holds -/

/-- A key is in the index exactly if a field has it, with the place of that field. -/
def Indexes (index : List (String × Nat)) (fields : List (Field Row)) : Prop :=
  ∀ key place, index.lookup key = some place ↔ (fields.map Field.key)[place]? = some key

namespace Indexes

theorem nil : Indexes [] ([] : List (Field Row)) := by
  intro key place
  simp

theorem lookup_eq_none (h : Indexes index fields) {key : String} :
    index.lookup key = none ↔ key ∉ fields.map Field.key := by
  rw [List.mem_iff_getElem?, not_exists, Option.eq_none_iff_forall_ne_some]
  exact forall_congr' fun place => not_congr (h key place)

/-- No two fields have one key, because a key has one place in the index. -/
theorem nodup_keys (h : Indexes index fields) : (fields.map Field.key).Nodup := by
  rw [List.nodup_iff_getElem?_ne_getElem?]
  intro i j hij hj heq
  have hplace := (h _ j).mpr (List.getElem?_eq_getElem hj)
  rw [(h _ i).mpr (heq.trans (List.getElem?_eq_getElem hj))] at hplace
  exact Nat.ne_of_lt hij (Option.some.inj hplace)

/-- One step of the builder: a field with a new key is entered behind the others. -/
theorem push (h : Indexes index front) {f : Field Row} (hnew : index.lookup f.key = none) :
    Indexes ((f.key, front.length) :: index) (front ++ [f]) := by
  intro key place
  rw [List.lookup_cons, List.map_append, List.map_singleton]
  by_cases hkey : key = f.key
  · -- The new key is at the new place, and at no place before.
    subst hkey
    rw [beq_self_eq_true]
    show some front.length = some place ↔ _
    constructor
    · intro hplace
      cases hplace
      simp
    · intro hplace
      have hnot : ¬ place < (front.map Field.key).length := fun hlt =>
        h.lookup_eq_none.mp hnew (List.mem_of_getElem? (List.getElem?_append_left hlt ▸ hplace))
      have hlt := (List.getElem?_eq_some_iff.mp hplace).1
      rw [List.length_append, List.length_singleton] at hlt
      rw [List.length_map] at hlt hnot
      exact congrArg some (by omega)
  · have hlookup : (key == f.key) = false := by simpa using hkey
    rw [hlookup]
    show index.lookup key = some place ↔ _
    rw [h key place, List.getElem?_append, List.length_map]
    split
    · rfl
    · next hplace =>
      rw [List.getElem?_eq_none (by simpa using hplace), List.getElem?_singleton]
      simp [Ne.symm hkey]

end Indexes

/-- Where all fields are entered, the index holds them all. -/
theorem enter_eq_ok {later : List (Field Row)} {entered : List (String × Nat)}
    (h : Indexes index front) (hok : enter index front.length later = .ok entered) :
    Indexes entered (front ++ later) := by
  induction later generalizing index front with
  | nil =>
    cases hok
    rwa [List.append_nil]
  | cons f later ih =>
    rw [enter] at hok
    split at hok
    · cases hok
    · next hnew =>
      have hall := ih (h.push hnew) (by rwa [List.length_append])
      rwa [List.append_assoc] at hall

/-- A field that is refused is the first whose key is repeated. -/
theorem enter_eq_error {later : List (Field Row)} {f : Field Row}
    (h : Indexes index front) (herr : enter index front.length later = .error f) :
    ∃ j, (front ++ later)[j]? = some f ∧ RepeatedAt ((front ++ later).map Field.key) j ∧
      ∀ k < j, ¬ RepeatedAt ((front ++ later).map Field.key) k := by
  induction later generalizing index front with
  | nil => cases herr
  | cons g later ih =>
    rw [enter] at herr
    split at herr
    · next place hplace =>
      cases herr
      have hbefore := (h f.key place).mp hplace
      have hlt := (List.getElem?_eq_some_iff.mp hbefore).1
      rw [List.map_append]
      refine ⟨front.length, by simp, ⟨place, f.key, by simpa using hlt, ?_, by simp⟩, ?_⟩
      · rw [List.getElem?_append_left hlt]
        exact hbefore
      · intro k hk
        rw [repeatedAt_append (by simpa using hk)]
        exact nodup_iff_not_repeatedAt.mp h.nodup_keys k
    · next hnew =>
      have hlater := ih (h.push hnew) (by rwa [List.length_append])
      rwa [List.append_assoc] at hlater

/-- The index of a schema whose fields all have keys of their own. -/
theorem indexes_index {s : Schema Row} (hnodup : (s.fields.map Field.key).Nodup) :
    Indexes s.index s.fields := by
  rw [index]
  cases h : enter [] 0 s.fields with
  | ok entered => exact enter_eq_ok .nil h
  | error f =>
    obtain ⟨j, -, hrepeated, -⟩ := enter_eq_error .nil h
    exact absurd hrepeated (nodup_iff_not_repeatedAt.mp hnodup j)

/-! ## What a builder refuses -/

namespace Builder

variable {t : τ} {b : Builder Row t}

theorem build_eq_ok {s : Schema Row} :
    b.build = .ok s ↔ (b.fields.map Field.key).Nodup ∧ s = ⟨b.name, b.fields⟩ := by
  rw [build]
  cases h : enter [] 0 b.fields with
  | ok entered =>
    have hnodup := (enter_eq_ok .nil h).nodup_keys
    constructor
    · intro hs
      cases hs
      exact ⟨hnodup, rfl⟩
    · rintro ⟨-, rfl⟩
      rfl
  | error f =>
    obtain ⟨j, -, hrepeated, -⟩ := enter_eq_error .nil h
    constructor
    · intro hs
      cases hs
    · rintro ⟨hnodup, -⟩
      exact absurd hrepeated (nodup_iff_not_repeatedAt.mp hnodup j)

theorem exists_of_build_eq_error {e : SchemaError} (h : b.build = .error e) :
    ∃ j f, b.fields[j]? = some f ∧ RepeatedAt (b.fields.map Field.key) j ∧
      (∀ k < j, ¬ RepeatedAt (b.fields.map Field.key) k) ∧ e = .duplicateField b.name f.name := by
  rw [build] at h
  split at h
  · next f hf =>
    cases h
    obtain ⟨j, hj, hrepeated, hfirst⟩ := enter_eq_error .nil hf
    exact ⟨j, f, hj, hrepeated, hfirst, rfl⟩
  · cases h

/-- The error names the first field whose key is repeated. -/
theorem build_eq_error {e : SchemaError} :
    b.build = .error e ↔ ∃ j f, b.fields[j]? = some f ∧ RepeatedAt (b.fields.map Field.key) j ∧
      (∀ k < j, ¬ RepeatedAt (b.fields.map Field.key) k) ∧
      e = .duplicateField b.name f.name := by
  constructor
  · exact exists_of_build_eq_error
  · rintro ⟨j, f, hf, hrepeated, hfirst, rfl⟩
    cases h : b.build with
    | ok s => exact absurd hrepeated (nodup_iff_not_repeatedAt.mp (build_eq_ok.mp h).1 j)
    | error e =>
      -- There is one first repeated place, so it is the one that the builder has found.
      obtain ⟨j', f', hf', hrepeated', hfirst', rfl⟩ := exists_of_build_eq_error h
      have hj : j' = j := by
        rcases Nat.lt_trichotomy j' j with hlt | heq | hgt
        · exact absurd hrepeated' (hfirst j' hlt)
        · exact heq
        · exact absurd hrepeated (hfirst' j hgt)
      rw [hj, hf] at hf'
      cases hf'
      rfl

end Builder

/-! ## What a lookup finds -/

theorem mem_of_field?_eq_some {s : Schema Row} {name : String} {f : Field Row}
    (h : s.field? name = some f) : f ∈ s.fields := by
  obtain ⟨place, -, hplace⟩ := Option.bind_eq_some_iff.mp h
  exact List.mem_of_getElem? hplace

/-- Where no two fields have one key, a name has the place of the field that it names. -/
theorem place?_eq_some_iff {s : Schema Row} (hnodup : (s.fields.map Field.key).Nodup)
    {name : String} {place : Nat} :
    s.place? name = some place ↔
      ∃ f, s.fields[place]? = some f ∧ f.key = Text.lowercase name := by
  rw [place?, indexes_index hnodup, List.getElem?_map, Option.map_eq_some_iff]

/-- Where no two fields have one key, a lookup finds the fields there are, each by its name. -/
theorem field?_eq_some_iff {s : Schema Row} (hnodup : (s.fields.map Field.key).Nodup)
    {name : String} {f : Field Row} :
    s.field? name = some f ↔ f ∈ s.fields ∧ f.key = Text.lowercase name := by
  rw [field?, Option.bind_eq_some_iff]
  constructor
  · rintro ⟨place, hplace, hf⟩
    obtain ⟨g, hg, hkey⟩ := (place?_eq_some_iff hnodup).mp hplace
    rw [hf] at hg
    cases hg
    exact ⟨List.mem_of_getElem? hf, hkey⟩
  · rintro ⟨hmem, hkey⟩
    obtain ⟨place, hf⟩ := List.mem_iff_getElem?.mp hmem
    exact ⟨place, (place?_eq_some_iff hnodup).mpr ⟨f, hf, hkey⟩, hf⟩

end RowFilter.Schema
