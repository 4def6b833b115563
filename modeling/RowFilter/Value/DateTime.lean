import RowFilter.Text.Blank
import RowFilter.Text.Digits

/-!
# Dates with a time of day

A date is one of the proleptic Gregorian calendar, negative years included, and its time of day
counts nanoseconds. A leap second is the second 59 with a thousand million nanoseconds more, so
that it lies between second 59 and the next minute without a sixtieth second.

## The literal forms

A literal is a date alone, which means its midnight, or a date and a time with a `T` or blanks in
between. The reader goes through it from the left and is lenient in two ways: blanks are passed
over in front of every number, and a number may have fewer digits than its place allows. A year
without a sign has at most four digits, one with a sign any number; every other number has at
most two. Blanks between date and time may be missing altogether.
-/

set_option autoImplicit false

namespace RowFilter

def isLeapYear (year : Int) : Bool :=
  year % 4 = 0 && (year % 100 ≠ 0 || year % 400 = 0)

/-- The number of days of a month, zero for a number that is no month. -/
def daysInMonth (year : Int) : Nat → Nat
  | 1 | 3 | 5 | 7 | 8 | 10 | 12 => 31
  | 4 | 6 | 9 | 11 => 30
  | 2 => if isLeapYear year then 29 else 28
  | _ => 0

def nanosPerSecond : Nat := 1000000000

structure DateTime where
  year : Int
  month : Nat
  day : Nat
  hour : Nat
  minute : Nat
  second : Nat
  nanosecond : Nat
  deriving DecidableEq, Repr

namespace DateTime

/-- The year is one that can be represented, the day exists, and the time of day does too. -/
def Valid (t : DateTime) : Prop :=
  (-262143 ≤ t.year ∧ t.year ≤ 262142) ∧ (1 ≤ t.day ∧ t.day ≤ daysInMonth t.year t.month) ∧
    t.hour ≤ 23 ∧ t.minute ≤ 59 ∧ t.second ≤ 59 ∧
    t.nanosecond < if t.second = 59 then 2 * nanosPerSecond else nanosPerSecond

instance (t : DateTime) : Decidable t.Valid := by unfold Valid; infer_instance

instance : Inhabited DateTime := ⟨⟨1970, 1, 1, 0, 0, 0, 0⟩⟩

/-- The parts in order of weight. Times are ordered as these lists are. -/
def parts (t : DateTime) : List Int :=
  [t.year, t.month, t.day, t.hour, t.minute, t.second, t.nanosecond]

/-! ## Reading -/

/-- Reads a number of at most `width` digits, after any blanks. -/
def scanNumber (width : Nat) (s : List Char) : Option (Nat × List Char) :=
  let s := Text.trimStart s
  let digits := (s.take width).takeWhile Char.isDigit
  if digits.isEmpty then none else some (Text.digitsValue digits, s.drop digits.length)

/-- Reads all the digits at the start of a text, one at least. -/
def scanDigits (s : List Char) : Option (Nat × List Char) :=
  let digits := s.takeWhile Char.isDigit
  if digits.isEmpty then none else some (Text.digitsValue digits, s.dropWhile Char.isDigit)

def scanYear (s : List Char) : Option (Int × List Char) :=
  match Text.trimStart s with
  | '-' :: r => (scanDigits r).map fun (n, rest) => (-(n : Int), rest)
  | '+' :: r => (scanDigits r).map fun (n, rest) => ((n : Int), rest)
  | r => (scanNumber 4 r).map fun (n, rest) => ((n : Int), rest)

/-- Passes over this very character. -/
def expect (c : Char) : List Char → Option (List Char)
  | d :: r => if d = c then some r else none
  | [] => none

def scanDate (s : List Char) : Option ((Int × Nat × Nat) × List Char) := do
  let (year, s) ← scanYear s
  let s ← expect '-' s
  let (month, s) ← scanNumber 2 s
  let s ← expect '-' s
  let (day, s) ← scanNumber 2 s
  return ((year, month, day), s)

/-- The nanoseconds of a fraction: its first nine digits, filled up with zeros. -/
def nanosOfFraction (digits : List Char) : Nat :=
  Text.digitsValue ((digits ++ List.replicate 9 '0').take 9)

/-- Reads the fraction of a second, if there is a point to start one. -/
def scanFraction : List Char → Option (Nat × List Char)
  | '.' :: r =>
    let digits := r.takeWhile Char.isDigit
    if digits.isEmpty then none else some (nanosOfFraction digits, r.dropWhile Char.isDigit)
  | s => some (0, s)

/-- Reads hour, minute, second and nanosecond from the whole of a text. -/
def readTime? (s : List Char) : Option (Nat × Nat × Nat × Nat) := do
  let (hour, s) ← scanNumber 2 s
  let s ← expect ':' s
  let (minute, s) ← scanNumber 2 s
  let s ← expect ':' s
  let (second, s) ← scanNumber 2 s
  let (nano, s) ← scanFraction s
  if s.isEmpty then return (hour, minute, second, nano) else none

/-- The time of day in a literal, from what follows the date. -/
def readTimeAfterDate? : List Char → Option (Nat × Nat × Nat × Nat)
  | [] => some (0, 0, 0, 0)
  | 'T' :: r => readTime? r
  | s => readTime? s

/-- The date and time with these parts, if there is one. The second 60 is a leap second. -/
def ofParts? (year : Int) (month day hour minute second nano : Nat) : Option DateTime :=
  let t : DateTime :=
    if second = 60 then ⟨year, month, day, hour, minute, 59, nano + nanosPerSecond⟩
    else ⟨year, month, day, hour, minute, second, nano⟩
  if t.Valid then some t else none

def read? (s : List Char) : Option DateTime := do
  let ((year, month, day), rest) ← scanDate s
  let (hour, minute, second, nano) ← readTimeAfterDate? rest
  ofParts? year month day hour minute second nano

end DateTime
end RowFilter
