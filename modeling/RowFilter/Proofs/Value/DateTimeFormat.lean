import Mathlib.Data.List.DropRight
import RowFilter.Value.DateTime

/-!
# The formats of date-time literals

A date and a time can be read by a *format*, a text that says item by item what comes next. There are
three for literals, tried in this order: a date and a time with a letter in between, the same with
blanks in between, and a date alone. `read?` knows of no formats. It reads the date once and looks at
what is behind it, and that is the same (`read?_eq_tryFormats?`): the first two formats never both
read a text, because no time starts with a letter, and the third reads only what ends with the date.
-/

set_option autoImplicit false

namespace RowFilter.DateTime

/-! ## Formats -/

/-- What a format can ask for next. -/
inductive Item where
  | year
  | month
  | day
  | hour
  | minute
  | second
  /-- The fraction of a second, which may be missing. -/
  | fraction
  /-- Any blanks, or none. -/
  | blanks
  /-- This very character. -/
  | mark (c : Char)
  deriving DecidableEq

/-- The items of a format. -/
def items : List Char → List Item
  | [] => []
  | '%' :: 'Y' :: r => .year :: items r
  | '%' :: 'm' :: r => .month :: items r
  | '%' :: 'd' :: r => .day :: items r
  | '%' :: 'H' :: r => .hour :: items r
  | '%' :: 'M' :: r => .minute :: items r
  | '%' :: 'S' :: r => .second :: items r
  | '%' :: '.' :: 'f' :: r => .fraction :: items r
  | c :: r => (if Text.isBlank c then .blanks else .mark c) :: items r

/-- Reads an item, and enters what has been read among the parts that are known. -/
def Item.scan (t : DateTime) (s : List Char) : Item → Option (DateTime × List Char)
  | year => (scanYear s).map fun (n, rest) => ({ t with year := n }, rest)
  | month => (scanNumber 2 s).map fun (n, rest) => ({ t with month := n }, rest)
  | day => (scanNumber 2 s).map fun (n, rest) => ({ t with day := n }, rest)
  | hour => (scanNumber 2 s).map fun (n, rest) => ({ t with hour := n }, rest)
  | minute => (scanNumber 2 s).map fun (n, rest) => ({ t with minute := n }, rest)
  | second => (scanNumber 2 s).map fun (n, rest) => ({ t with second := n }, rest)
  | fraction => (scanFraction s).map fun (n, rest) => ({ t with nanosecond := n }, rest)
  | blanks => some (t, Text.trimStart s)
  | mark c => (expect c s).map fun rest => (t, rest)

def scanItems (t : DateTime) (s : List Char) (items : List Item) : Option (DateTime × List Char) :=
  items.foldlM (fun (t, s) item => item.scan t s) (t, s)

/-- The moment with these parts, if the text ends here. -/
def atEnd? (t : DateTime) (s : List Char) : Option DateTime :=
  if s.isEmpty then ofParts? t.year t.month t.day t.hour t.minute t.second t.nanosecond else none

/-- Reads the whole of a text by a format. Parts of the time that the format does not ask for are
zero. -/
def readFormat? (s : List Char) (format : String) : Option DateTime := do
  let (t, rest) ← scanItems ⟨0, 0, 0, 0, 0, 0, 0⟩ s (items format.toList)
  atEnd? t rest

def letterFormat : String := "%Y-%m-%dT%H:%M:%S%.f"

def blanksFormat : String := "%Y-%m-%d %H:%M:%S%.f"

def dateFormat : String := "%Y-%m-%d"

/-- The moment by the first format that reads the text. -/
def tryFormats? (s : List Char) : Option DateTime :=
  ([letterFormat, blanksFormat].findSome? (readFormat? s)).or (readFormat? s dateFormat)

/-! ## What the formats have in common -/

/-- The parts that a date gives. -/
def onDate (date : Int × Nat × Nat) : DateTime := ⟨date.1, date.2.1, date.2.2, 0, 0, 0, 0⟩

/-- The moment with a time on this date. -/
def withTime? (date : Int × Nat × Nat) (time : Nat × Nat × Nat × Nat) : Option DateTime :=
  ofParts? date.1 date.2.1 date.2.2 time.1 time.2.1 time.2.2.1 time.2.2.2

def dateItems : List Item := [.year, .mark '-', .month, .mark '-', .day]

def timeItems : List Item := [.hour, .mark ':', .minute, .mark ':', .second, .fraction]

/-- Reads the rest of a text, behind a date. -/
def readBehind? (date : Int × Nat × Nat) (rest : List Char) (back : List Item) : Option DateTime :=
  (scanItems (onDate date) rest back).bind fun (t, rest) => atEnd? t rest

theorem scanItems_dateItems (s : List Char) : scanItems ⟨0, 0, 0, 0, 0, 0, 0⟩ s dateItems =
    (scanDate s).map fun (date, rest) => (onDate date, rest) := by
  simp only [scanItems, dateItems, List.foldlM_cons, List.foldlM_nil, Item.scan, scanDate, onDate,
    Option.map_eq_bind, Option.bind_eq_bind, Option.pure_def, Option.bind_assoc, Option.bind_some,
    Option.bind_fun_some, Function.comp_def]

/-- A format that asks for a date first reads a date first. -/
theorem readFormat?_date {format : String} {back : List Item}
    (hitems : items format.toList = dateItems ++ back) (s : List Char) :
    readFormat? s format = (scanDate s).bind fun (date, rest) => readBehind? date rest back := by
  have happend : scanItems ⟨0, 0, 0, 0, 0, 0, 0⟩ s (dateItems ++ back) =
      (scanItems ⟨0, 0, 0, 0, 0, 0, 0⟩ s dateItems).bind fun (t, rest) => scanItems t rest back :=
    List.foldlM_append
  rw [readFormat?, hitems, happend, scanItems_dateItems]
  cases scanDate s <;> rfl

section

variable (date : Int × Nat × Nat) (rest : List Char)

theorem readBehind?_timeItems :
    readBehind? date rest timeItems = (readTime? rest).bind (withTime? date) := by
  have hend : ∀ (rest : List Char) (time : Nat × Nat × Nat × Nat),
      (if rest = [] then some time else none).bind (withTime? date) =
        if rest = [] then withTime? date time else none := by
    intro rest time
    split <;> rfl
  simp only [readBehind?, scanItems, timeItems, List.foldlM_cons, List.foldlM_nil, Item.scan, readTime?,
    atEnd?, onDate, Option.map_eq_bind, Option.bind_eq_bind, Option.pure_def, Option.bind_assoc,
    Option.bind_some, Function.comp_apply, List.isEmpty_iff, hend]
  rfl

theorem readBehind?_letter : readBehind? date rest (.mark 'T' :: timeItems) =
    (expect 'T' rest).bind fun rest => (readTime? rest).bind (withTime? date) := by
  rw [readBehind?, scanItems, List.foldlM_cons]
  simp only [Item.scan]
  cases expect 'T' rest with
  | none => rfl
  | some rest => exact readBehind?_timeItems date rest

/-- Blanks in front of a time are passed over by the hour. -/
theorem readTime?_trimStart : readTime? (Text.trimStart rest) = readTime? rest := by
  have htrim : Text.trimStart (Text.trimStart rest) = Text.trimStart rest :=
    List.dropWhile_idempotent Text.isBlank rest
  have hnumber : scanNumber 2 (Text.trimStart rest) = scanNumber 2 rest := by
    simp only [scanNumber, htrim]
  rw [readTime?, readTime?, hnumber]

theorem readBehind?_blanks : readBehind? date rest (.blanks :: timeItems) =
    (readTime? rest).bind (withTime? date) := by
  rw [← readTime?_trimStart]
  exact readBehind?_timeItems date (Text.trimStart rest)

/-- No time starts with the letter. -/
theorem readTime?_letter : readTime? ('T' :: rest) = none := by
  have hblank : Text.isBlank 'T' = false := by decide
  have hdigit : ('T').isDigit = false := by decide
  simp [readTime?, scanNumber, Text.trimStart, hblank, hdigit]

/-- Behind a date, what comes next tells which of the formats reads it. -/
theorem readBehind?_or : ((readBehind? date rest (.mark 'T' :: timeItems)).or
      (readBehind? date rest (.blanks :: timeItems))).or (readBehind? date rest []) =
    (readTimeAfterDate? rest).bind (withTime? date) := by
  rw [readBehind?_letter, readBehind?_blanks]
  cases rest with
  | nil => rfl
  | cons c rest =>
    have hmore : readBehind? date (c :: rest) [] = none := rfl
    rw [hmore, Option.or_none]
    by_cases hc : c = 'T'
    · subst hc
      rw [readTime?_letter]
      exact Option.or_none
    · have hexpect : expect 'T' (c :: rest) = none := if_neg hc
      have hafter : readTimeAfterDate? (c :: rest) = readTime? (c :: rest) := by
        unfold readTimeAfterDate?
        split
        · next h => cases h
        · next h => exact absurd (List.cons.inj h).1 hc
        · rfl
      rw [hexpect, hafter]
      rfl

end

/-! ## The three formats -/

/-- The reader reads a date, and then looks at what is behind it. -/
theorem read?_eq_bind (s : List Char) : read? s = (scanDate s).bind fun (date, rest) =>
    (readTimeAfterDate? rest).bind (withTime? date) := rfl

/-- **Reading is to try the formats.** -/
theorem read?_eq_tryFormats? (s : List Char) : read? s = tryFormats? s := by
  have hletter : items letterFormat.toList = dateItems ++ .mark 'T' :: timeItems := by
    decide +kernel
  have hblanks : items blanksFormat.toList = dateItems ++ .blanks :: timeItems := by decide +kernel
  have hdate : items dateFormat.toList = dateItems ++ [] := by decide +kernel
  have hformats : tryFormats? s =
      ((readFormat? s letterFormat).or (readFormat? s blanksFormat)).or (readFormat? s dateFormat) := by
    rw [tryFormats?, List.findSome?_cons, List.findSome?_cons, List.findSome?_nil]
    cases readFormat? s letterFormat with
    | some t => rfl
    | none => cases readFormat? s blanksFormat <;> rfl
  rw [hformats, readFormat?_date hletter, readFormat?_date hblanks, readFormat?_date hdate,
    read?_eq_bind]
  cases scanDate s with
  | none => rfl
  | some found => exact (readBehind?_or found.1 found.2).symm

end RowFilter.DateTime
