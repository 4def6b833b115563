import RowFilter.Text.Bytes
import RowFilter.Value.Basic

/-!
# The order of values

Values of one kind are ordered by what they mean: `false` before `true`, numbers by size, times by
their parts, identifiers and texts byte by byte with a proper front part first. Values of different
kinds are ordered by the positions of their kinds. Only a NaN makes a pair incomparable.

Equality is defined on its own and not through the order; that the two agree is a law about them.
-/

set_option autoImplicit false

namespace RowFilter.Value

/-- The order of two values, or nothing if they are incomparable. -/
def compare? (a b : Value) : Option Ordering :=
  match a, b with
  | bool x, bool y => some (compare x y)
  | @integer v m, @integer w n =>
    if v = w then some (compare m.val n.val)
    else some (compare a.kind.position b.kind.position)
  | @float f x, @float g y =>
    if f = g then x.compare? y else some (compare a.kind.position b.kind.position)
  | dateTime s, dateTime t => some (compare s.parts t.parts)
  | uuid s, uuid t => some (compare s.bytes t.bytes)
  | text s, text t => some (compare (Text.bytes s.toList) (Text.bytes t.toList))
  | a, b => some (compare a.kind.position b.kind.position)

/-- Equality of value: it tells neither the zeros of a format apart nor holds of a NaN. -/
def equals (a b : Value) : Bool :=
  match a, b with
  | bool x, bool y => x = y
  | @integer v m, @integer w n => v = w && m.val = n.val
  | @float f x, @float g y => f = g && x.equals y
  | dateTime s, dateTime t => s = t
  | uuid s, uuid t => s = t
  | text s, text t => s = t
  | _, _ => false

def lt (a b : Value) : Bool := compare? a b = some .lt

def gt (a b : Value) : Bool := compare? a b = some .gt

def le (a b : Value) : Bool := compare? a b = some .lt || compare? a b = some .eq

def ge (a b : Value) : Bool := compare? a b = some .gt || compare? a b = some .eq

/-- Is `needle` a text that stands somewhere in the text `a`? -/
def contains (a needle : Value) : Bool :=
  match a.text?, needle.text? with
  | some hay, some needle => Text.occursIn needle.toList hay.toList
  | _, _ => false

end RowFilter.Value
