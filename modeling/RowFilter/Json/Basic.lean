/-!
# JSON values

A number that is written with a fraction or an exponent, or as minus zero, is kept apart from the
integers and as it was spelled: nothing in this library computes with it, and a structured form
that asks for a count refuses it whatever its value.
-/

set_option autoImplicit false

namespace RowFilter

/-- A JSON value. -/
inductive Json where
  | null
  | bool (b : Bool)
  | int (n : Int)
  /-- A number in a spelling that is no integer's. -/
  | real (spelling : String)
  | str (s : String)
  | arr (items : List Json)
  | obj (members : List (String × Json))
  deriving Repr, Inhabited

namespace Json

def nat (n : Nat) : Json := .int n

/-- The member of an object with this key. -/
def get? (key : String) : Json → Option Json
  | obj members => members.lookup key
  | _ => none

end Json
end RowFilter
