import RowFilter.Text.Blank

/-!
# Property paths

A property path such as `Address.Number` names a field of a row, or a field of a record inside
it. As text its segments are separated by dots. A path is *valid* when it has a segment and no
segment is blank; both ways of making one, from a text and from a list of segments, check that.

The segments of a path given as a list may hold dots themselves. Such a path is valid and prints
like a longer one, which is why equality is equality of segments and not of texts.
-/

set_option autoImplicit false

namespace RowFilter

/-- The names to follow, outermost record first. -/
structure Path where
  segments : List String
  deriving DecidableEq, Repr, Inhabited

namespace Path

/-- A path has a segment, and none of its segments is blank. -/
def Valid (p : Path) : Prop :=
  p.segments ≠ [] ∧ ∀ s ∈ p.segments, Text.allBlank s.toList = false

instance (p : Path) : Decidable p.Valid := by unfold Valid; infer_instance

/-- The path with these segments, if they make a valid one. -/
def ofSegments? (segments : List String) : Option Path :=
  if Valid ⟨segments⟩ then some ⟨segments⟩ else none

def read? (s : List Char) : Option Path :=
  ofSegments? ((s.splitOn '.').map String.ofList)

def ofString? (s : String) : Option Path := read? s.toList

def toString (p : Path) : String := ".".intercalate p.segments

instance : ToString Path := ⟨Path.toString⟩

/-- The last segment, empty for a path without segments. -/
def last (p : Path) : String := p.segments.getLastD ""

end Path
end RowFilter
