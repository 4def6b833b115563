import RowFilter.Json.PredicateForms
import RowFilter.Proofs.Json.SyntaxForms

/-!
# Laws of the structured forms of kinds, errors and expressions

Kinds and compile errors hold names and texts only, so JSON can hold all of them. An expression is
storable when the paths of its leaves are valid. Its writer goes down the tree and its reader goes
down the JSON value, so the two halves of its law are inductions on different things.
-/

set_option autoImplicit false

namespace RowFilter

open Json JsonForm

theorem Kind.lawful : Lawful fun _ : Kind => True :=
  ⟨fun k _ => ofName?_name k, fun _ _ _ => trivial⟩

theorem CompileError.lawful : Lawful fun _ : CompileError => True := by
  have htext : ∀ s : String, decode? (encode s) = some s := fun s =>
    lawful_string.decode_encode s trivial
  have hkind : ∀ k : Kind, decode? (encode k) = some k := fun k =>
    Kind.lawful.decode_encode k trivial
  refine ⟨?_, fun _ _ _ => trivial⟩
  rintro (⟨path, segment⟩ | ⟨path, literal, kind⟩ | ⟨path, kind⟩ | operator) -
  · have hfields := members?_zip ["path", "segment"] [encode path, encode segment] (by simp) rfl
    exact Option.bind_eq_some_iff.mpr ⟨_, hfields, by simp [htext]⟩
  · have hfields := members?_zip ["path", "literal", "kind"]
      [encode path, encode literal, encode kind] (by simp) rfl
    exact Option.bind_eq_some_iff.mpr ⟨_, hfields, by simp [htext, hkind]⟩
  · have hfields := members?_zip ["path", "kind"] [encode path, encode kind] (by simp) rfl
    exact Option.bind_eq_some_iff.mpr ⟨_, hfields, by simp [htext, hkind]⟩
  · exact Option.bind_eq_some_iff.mpr ⟨operator, htext operator, rfl⟩

/-! ## Expressions -/

def Comparison.Storable (c : Comparison) : Prop := c.path.Valid

def Expression.Storable (e : Expression) : Prop := ∀ c ∈ e.leaves, c.Storable

namespace Comparison

theorem decodeData?_encodeData {c : Comparison} (h : c.Storable) :
    decodeData? c.encodeData = some c := by
  obtain ⟨path, operator, literal⟩ := c
  have hfields := members?_zip ["path", "operator", "literal"]
    [encode path, encode operator, encode literal] (by simp) rfl
  rw [decodeData?]
  refine Option.bind_eq_some_iff.mpr ⟨_, hfields, ?_⟩
  simp [Path.lawful.decode_encode path h, Operator.lawful.decode_encode operator trivial,
    lawful_string.decode_encode literal trivial]

theorem storable_of_decodeData? {x : Json} {c : Comparison} (h : decodeData? x = some c) :
    c.Storable := by
  obtain ⟨fields, -, h⟩ := Option.bind_eq_some_iff.mp h
  split at h
  · obtain ⟨path, hpath, h⟩ := Option.bind_eq_some_iff.mp h
    obtain ⟨operator, -, h⟩ := Option.bind_eq_some_iff.mp h
    obtain ⟨literal, -, heq⟩ := Option.bind_eq_some_iff.mp h
    cases heq
    exact Path.lawful.of_decode _ path hpath
  · cases h

end Comparison

namespace Expression

/-- The data of a connective is read back, if its branches are. -/
theorem decodeBranches?_eq {l r : Expression} (hl : decode? l.encode = some l)
    (hr : decode? r.encode = some r) :
    decodeBranches? (.obj [("left", l.encode), ("right", r.encode)]) = some (l, r) := by
  simp [decodeBranches?, decodeMember?, hl, hr]

theorem decode?_encode {e : Expression} (h : e.Storable) : decode? e.encode = some e := by
  induction e with
  | always => rfl
  | leaf c =>
    have hc : c.Storable := h c (List.mem_singleton.mpr rfl)
    simp [encode, Json.variant, decode?, Comparison.decodeData?_encodeData hc]
  | and l r ihl ihr =>
    obtain ⟨hl, hr⟩ := List.forall_mem_append.mp h
    simp [encode, Json.variant, decode?, decodeBranches?_eq (ihl hl) (ihr hr)]
  | or l r ihl ihr =>
    obtain ⟨hl, hr⟩ := List.forall_mem_append.mp h
    simp [encode, Json.variant, decode?, decodeBranches?_eq (ihl hl) (ihr hr)]

mutual

theorem storable_of_decode? : ∀ (x : Json) (e : Expression), decode? x = some e → e.Storable
  | .str name, e, h => by
    simp only [decode?, Option.ite_none_right_eq_some, Option.some.injEq] at h
    obtain ⟨-, rfl⟩ := h
    exact fun c hc => absurd hc List.not_mem_nil
  | .obj [(name, data)], e, h => by
    -- The four names, in the order in which the reader asks for them.
    unfold decode? at h
    split at h
    · obtain ⟨c, hread, rfl⟩ := Option.map_eq_some_iff.mp h
      intro c' hc
      rw [List.mem_singleton.mp hc]
      exact Comparison.storable_of_decodeData? hread
    split at h
    · obtain ⟨⟨l, r⟩, hlr, rfl⟩ := Option.map_eq_some_iff.mp h
      exact List.forall_mem_append.mpr (storable_of_decodeBranches? data l r hlr)
    split at h
    · obtain ⟨⟨l, r⟩, hlr, rfl⟩ := Option.map_eq_some_iff.mp h
      exact List.forall_mem_append.mpr (storable_of_decodeBranches? data l r hlr)
    split at h
    · split at h
      · cases h
        exact fun c hc => absurd hc List.not_mem_nil
      · cases h
    · cases h
  | .null, _, h | .bool _, _, h | .int _, _, h | .real _, _, h | .arr _, _, h | .obj [], _, h
  | .obj (_ :: _ :: _), _, h => nomatch h

theorem storable_of_decodeBranches? : ∀ (x : Json) (l r : Expression),
    decodeBranches? x = some (l, r) → l.Storable ∧ r.Storable
  | .obj members, l, r, h => by
    obtain ⟨l', hl, h⟩ := Option.bind_eq_some_iff.mp h
    obtain ⟨r', hr, heq⟩ := Option.bind_eq_some_iff.mp h
    cases heq
    exact ⟨storable_of_decodeMember? "left" members l hl,
      storable_of_decodeMember? "right" members r hr⟩
  | .null, _, _, h | .bool _, _, _, h | .int _, _, _, h | .real _, _, _, h | .str _, _, _, h
  | .arr _, _, _, h => nomatch h

theorem storable_of_decodeMember? : ∀ (key : String) (members : List (String × Json))
    (e : Expression), decodeMember? key members = some e → e.Storable
  | _, [], _, h => nomatch h
  | key, (k, x) :: members, e, h => by
    rw [decodeMember?] at h
    split at h
    · exact storable_of_decode? x e h
    · exact storable_of_decodeMember? key members e h

end

theorem lawful : Lawful Expression.Storable :=
  ⟨fun _ h => decode?_encode h, fun x e h => storable_of_decode? x e h⟩

end Expression
end RowFilter
