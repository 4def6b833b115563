import RowFilter.Text.Digits

/-!
# UUIDs

Sixteen bytes, written as hexadecimal digits in groups of 8, 4, 4, 4 and 12 with hyphens between
the groups. No other spelling is accepted: not without hyphens, not in braces, not as a URN. The
digits may be of either case and are written small.
-/

set_option autoImplicit false

namespace RowFilter

structure Uuid where
  bytes : List UInt8
  size : bytes.length = 16
  deriving DecidableEq, Repr

namespace Uuid

instance : Inhabited Uuid := ⟨List.replicate 16 0, rfl⟩

/-- The lengths of the groups of digits. -/
def groupLengths : List Nat := [8, 4, 4, 4, 12]

/-- The bytes that pairs of digits denote. -/
def bytesOfDigits : List Char → Option (List UInt8)
  | [] => some []
  | a :: b :: r => do
    return UInt8.ofNat ((← Text.hexDigit? a) * 16 + (← Text.hexDigit? b)) :: (← bytesOfDigits r)
  | [_] => none

def read? (s : List Char) : Option Uuid :=
  let groups := s.splitOn '-'
  if groups.map List.length = groupLengths then do
    let bytes ← bytesOfDigits groups.flatten
    if h : bytes.length = 16 then some ⟨bytes, h⟩ else none
  else none

def digitsOfByte (b : UInt8) : List Char :=
  [Nat.digitChar (b.toNat / 16), Nat.digitChar (b.toNat % 16)]

/-- Cuts a text into groups of these lengths. -/
def cutGroups : List Nat → List Char → List (List Char)
  | [], _ => []
  | n :: ns, s => s.take n :: cutGroups ns (s.drop n)

def toString (u : Uuid) : String :=
  String.ofList (['-'].intercalate (cutGroups groupLengths (u.bytes.flatMap digitsOfByte)))

instance : ToString Uuid := ⟨Uuid.toString⟩

end Uuid
end RowFilter
