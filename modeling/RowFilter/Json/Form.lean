import RowFilter.Json.Basic

/-!
# Structured forms

How the types of this library are written as JSON values and read back. Writing has one form for
each value; reading admits a few more, and the rules are the same for every type:

* a structure is an object, whose further members are ignored, or an array of exactly its fields;
* an enumeration is the name of a variant, or an object with that name as its one key; a variant
  without data may have `null` for its data, and a variant with fields is read from an object only;
* a count is an integer below `2 ^ 64`.
-/

set_option autoImplicit false

namespace RowFilter

/-- A type whose values can be written as JSON values and read back. -/
class JsonForm (α : Type) where
  encode : α → Json
  decode? : Json → Option α

export JsonForm (encode decode?)

namespace Json

/-- The members of an object with these keys, in the order of the keys. -/
def members? (keys : List String) (x : Json) : Option (List Json) := keys.mapM x.get?

/-- The fields of a structure, in the order of its keys. -/
def fields? (keys : List String) : Json → Option (List Json)
  | arr items => if items.length = keys.length then some items else none
  | x => members? keys x

/-- The name of a variant without data. -/
def unitVariant? : Json → Option String
  | str name => some name
  | obj [(name, null)] => some name
  | _ => none

/-- The name and the data of a variant. -/
def variant? : Json → Option (String × Json)
  | obj [(name, data)] => some (name, data)
  | _ => none

def variant (name : String) (data : Json) : Json := obj [(name, data)]

end Json

instance : JsonForm String where
  encode := .str
  decode?
    | .str s => some s
    | _ => none

instance : JsonForm Nat where
  encode := .nat
  decode?
    | .int n => if 0 ≤ n ∧ n.toNat < Nat.pow 2 64 then some n.toNat else none
    | _ => none

instance {α : Type} [JsonForm α] : JsonForm (List α) where
  encode xs := .arr (xs.map encode)
  decode?
    | .arr items => items.mapM decode?
    | _ => none

instance {α : Type} [JsonForm α] : JsonForm (Option α) where
  encode
    | none => .null
    | some a => encode a
  decode?
    | .null => some none
    | x => (decode? x).map some

end RowFilter
