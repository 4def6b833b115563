import RowFilter.Json.Form
import RowFilter.Proofs.Traversal

/-!
# Laws of structured forms

Writers and readers are separate functions, so that they fit is a law, and it is stated for each
type with the property of the values that JSON can hold: `Lawful p` says that a value with the
property is read back as it was written, and that reading gives values with the property only,
from whatever form. The second half is what lets a property be trusted that a reader checks.

The law of a compound type comes from the laws of its parts. A reader of a structure, or of a
variant with fields, picks its fields and reads each of them, and `members?_zip` says that the
fields which the writer put down are the ones that are picked: it is enough that no two keys are
equal.
-/

set_option autoImplicit false

namespace RowFilter

/-- The values with the property are the ones that JSON values stand for. -/
structure JsonForm.Lawful {α : Type} [JsonForm α] (p : α → Prop) : Prop where
  /-- A value with the property is read back as it was written. -/
  decode_encode : ∀ a, p a → decode? (encode a) = some a
  /-- Nothing else is read. -/
  of_decode : ∀ x a, decode? x = some a → p a

/-! ## Picking fields -/

namespace Json

theorem members?_zip (keys : List String) (xs : List Json) (hkeys : keys.Nodup)
    (hlength : keys.length = xs.length) : members? keys (obj (keys.zip xs)) = some xs := by
  rw [members?, mapM_eq_some]
  induction keys generalizing xs with
  | nil =>
    rw [List.length_eq_zero_iff.mp hlength.symm]
    exact .nil
  | cons key keys ih =>
    cases xs with
    | nil => cases hlength
    | cons x xs =>
      obtain ⟨hkey, hkeys⟩ := List.nodup_cons.mp hkeys
      have hlater := ih xs hkeys (Nat.succ.inj hlength)
      -- The first member is not in the way of the later keys.
      refine .cons List.lookup_cons_self (forall₂_imp_of_mem hlater fun key' hkey' y hy => ?_)
      have hne : (key' == key) = false := beq_false_of_ne (ne_of_mem_of_not_mem hkey' hkey)
      rw [get?, List.zip_cons_cons, List.lookup_cons, hne]
      exact hy

theorem fields?_zip (keys : List String) (xs : List Json) (hkeys : keys.Nodup)
    (hlength : keys.length = xs.length) : fields? keys (obj (keys.zip xs)) = some xs :=
  members?_zip keys xs hkeys hlength

end Json

/-! ## Texts, counts, lists and options -/

namespace JsonForm

theorem lawful_string : Lawful fun _ : String => True := ⟨fun _ _ => rfl, fun _ _ _ => trivial⟩

/-- A count fits in 64 bits. -/
def IsCount (n : Nat) : Prop := n < Nat.pow 2 64

instance (n : Nat) : Decidable (IsCount n) := by unfold IsCount; infer_instance

theorem lawful_nat : Lawful IsCount := by
  constructor
  · intro n hn
    exact if_pos ⟨Int.natCast_nonneg n, hn⟩
  · intro x n h
    simp only [decode?] at h
    split at h
    · obtain ⟨hcount, heq⟩ := Option.ite_none_right_eq_some.mp h
      cases heq
      exact hcount.2
    · cases h

variable {α : Type} [JsonForm α] {p : α → Prop}

theorem Lawful.list (h : Lawful p) : Lawful fun as : List α => ∀ a ∈ as, p a := by
  constructor
  · intro as has
    show (as.map encode).mapM decode? = some as
    rw [mapM_eq_some, List.forall₂_map_left_iff, List.forall₂_same]
    exact fun a ha => h.decode_encode a (has a ha)
  · intro x as hx a ha
    simp only [decode?] at hx
    split at hx
    · obtain ⟨y, -, hy⟩ := exists_of_mem_forall₂ (mapM_eq_some.mp hx).flip ha
      exact h.of_decode y a hy
    · cases hx

/-- What is missing is written as `null`, so no value may be written like that. -/
theorem Lawful.option (h : Lawful p) (hnull : ∀ a : α, encode a ≠ .null) :
    Lawful fun a? : Option α => ∀ a ∈ a?, p a := by
  constructor
  · rintro (_ | a) ha
    · rfl
    · have hread := h.decode_encode a (ha a rfl)
      simp only [encode, decode?]
      split
      case h_1 heq => exact absurd heq (hnull a)
      case h_2 => rw [hread, Option.map_some]
  · intro x a? hx a ha
    simp only [decode?] at hx
    split at hx
    · cases hx
      cases ha
    · obtain ⟨b, hb, rfl⟩ := Option.map_eq_some_iff.mp hx
      cases ha
      exact h.of_decode _ _ hb

end JsonForm
end RowFilter
