import RowFilter.Json.Form
import RowFilter.Syntax.Grouping

/-!
# Structured forms of the parts of a filter

A path is the list of its segments and is checked when it is read, so no form of a filter, however
it was made, brings in a path with a blank segment.
-/

set_option autoImplicit false

namespace RowFilter

instance : JsonForm Span where
  encode s := .obj [("offset", encode s.offset), ("len", encode s.len)]
  decode? x := do
    match ← x.fields? ["offset", "len"] with
    | [offset, len] => return ⟨← decode? offset, ← decode? len⟩
    | _ => none

instance : JsonForm Path where
  encode p := encode p.segments
  decode? x := do Path.ofSegments? (← decode? x)

instance : JsonForm Operator where
  encode op := .str op.name
  decode? x := do Operator.ofName? (← x.unitVariant?)

instance : JsonForm Clause where
  encode c := .obj [("path", encode c.path), ("operator", encode c.operator),
    ("literal", encode c.literal), ("span", encode c.span)]
  decode? x := do
    match ← x.fields? ["path", "operator", "literal", "span"] with
    | [path, operator, literal, span] =>
      return ⟨← decode? path, ← decode? operator, ← decode? literal, ← decode? span⟩
    | _ => none

instance : JsonForm OrGroup where
  encode g := .obj [("alternatives", encode g.alternatives)]
  decode? x := do
    match ← x.fields? ["alternatives"] with
    | [alternatives] => return ⟨← decode? alternatives⟩
    | _ => none

instance : JsonForm Grouping where
  encode g := .obj [("groups", encode g.groups)]
  decode? x := do
    match ← x.fields? ["groups"] with
    | [groups] => return ⟨← decode? groups⟩
    | _ => none

/-- The limit may be left out, in an object and in an array. -/
instance : JsonForm ParseOptions where
  encode o := .obj [("max_clauses", encode o.maxClauses)]
  decode?
    | .arr [] => some {}
    | .arr [limit] => do return ⟨← decode? limit⟩
    | .obj members =>
      match members.lookup "max_clauses" with
      | some limit => do return ⟨← decode? limit⟩
      | none => some {}
    | _ => none

instance : JsonForm ClauseDefect where
  encode
    | .tokenCount expected found =>
      .variant "TokenCount" (.obj [("expected", encode expected), ("found", encode found)])
    | .unclosedQuote => .str "UnclosedQuote"
    | .emptyPathSegment => .str "EmptyPathSegment"
  decode? x :=
    match x.variant? with
    | some ("TokenCount", data) => do
      match ← data.members? ["expected", "found"] with
      | [expected, found] => return .tokenCount (← decode? expected) (← decode? found)
      | _ => none
    | _ =>
      match x.unitVariant? with
      | some "UnclosedQuote" => some .unclosedQuote
      | some "EmptyPathSegment" => some .emptyPathSegment
      | _ => none

instance : JsonForm ParseError where
  encode
    | .malformedClause clause span reason =>
      .variant "MalformedClause"
        (.obj [("clause", encode clause), ("span", encode span), ("reason", encode reason)])
    | .emptyExpression => .str "EmptyExpression"
    | .tooManyClauses count max =>
      .variant "TooManyClauses" (.obj [("count", encode count), ("max", encode max)])
  decode? x :=
    match x.variant? with
    | some ("MalformedClause", data) => do
      match ← data.members? ["clause", "span", "reason"] with
      | [clause, span, reason] =>
        return .malformedClause (← decode? clause) (← decode? span) (← decode? reason)
      | _ => none
    | some ("TooManyClauses", data) => do
      match ← data.members? ["count", "max"] with
      | [count, max] => return .tooManyClauses (← decode? count) (← decode? max)
      | _ => none
    | _ =>
      match x.unitVariant? with
      | some "EmptyExpression" => some .emptyExpression
      | _ => none

end RowFilter
