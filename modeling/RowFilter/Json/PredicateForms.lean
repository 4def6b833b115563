import RowFilter.Json.SyntaxForms
import RowFilter.Predicate.Expression
import RowFilter.Row.Error

/-!
# Structured forms of kinds, errors and expressions

The data of a connective is an object with the keys `left` and `right`. The reader of expressions
goes down the JSON value itself: the member that it wants is found by a walk over the members, and
never by a look-up whose result the recursion could not follow.
-/

set_option autoImplicit false

namespace RowFilter

instance : JsonForm Kind where
  encode k := .str k.name
  decode? x := do Kind.ofName? (← x.unitVariant?)

instance : JsonForm CompileError where
  encode
    | .unknownField path segment =>
      .variant "UnknownField" (.obj [("path", encode path), ("segment", encode segment)])
    | .valueCoercionFailed path literal kind =>
      .variant "ValueCoercionFailed"
        (.obj [("path", encode path), ("literal", encode literal), ("kind", encode kind)])
    | .containsRequiresString path kind =>
      .variant "ContainsRequiresString" (.obj [("path", encode path), ("kind", encode kind)])
    | .unknownOperator operator => .variant "UnknownOperator" (encode operator)
  decode? x :=
    match x.variant? with
    | some ("UnknownField", data) => do
      match ← data.members? ["path", "segment"] with
      | [path, segment] => return .unknownField (← decode? path) (← decode? segment)
      | _ => none
    | some ("ValueCoercionFailed", data) => do
      match ← data.members? ["path", "literal", "kind"] with
      | [path, literal, kind] =>
        return .valueCoercionFailed (← decode? path) (← decode? literal) (← decode? kind)
      | _ => none
    | some ("ContainsRequiresString", data) => do
      match ← data.members? ["path", "kind"] with
      | [path, kind] => return .containsRequiresString (← decode? path) (← decode? kind)
      | _ => none
    | some ("UnknownOperator", data) => do return .unknownOperator (← decode? data)
    | _ => none

namespace Comparison

def encodeData (c : Comparison) : Json :=
  .obj [("path", encode c.path), ("operator", encode c.operator), ("literal", encode c.literal)]

def decodeData? (x : Json) : Option Comparison := do
  match ← x.members? ["path", "operator", "literal"] with
  | [path, operator, literal] => return ⟨← decode? path, ← decode? operator, ← decode? literal⟩
  | _ => none

end Comparison

namespace Expression

def encode : Expression → Json
  | .always => .str "True"
  | .leaf c => .variant "Comparison" c.encodeData
  | .and l r => .variant "And" (.obj [("left", encode l), ("right", encode r)])
  | .or l r => .variant "Or" (.obj [("left", encode l), ("right", encode r)])

mutual

def decode? : Json → Option Expression
  | .str name => if name = "True" then some .always else none
  | .obj [(name, data)] =>
    if name = "Comparison" then (Comparison.decodeData? data).map .leaf
    else if name = "And" then (decodeBranches? data).map fun (l, r) => .and l r
    else if name = "Or" then (decodeBranches? data).map fun (l, r) => .or l r
    else if name = "True" then
      match data with
      | .null => some .always
      | _ => none
    else none
  | _ => none

def decodeBranches? : Json → Option (Expression × Expression)
  | .obj members => do return (← decodeMember? "left" members, ← decodeMember? "right" members)
  | _ => none

/-- Reads the expression that is the member with this key. -/
def decodeMember? (key : String) : List (String × Json) → Option Expression
  | [] => none
  | (k, x) :: members => if k = key then decode? x else decodeMember? key members

end

instance : JsonForm Expression := ⟨Expression.encode, Expression.decode?⟩

end Expression
end RowFilter
