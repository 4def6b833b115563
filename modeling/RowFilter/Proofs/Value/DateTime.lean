import Mathlib.Data.List.TakeWhile
import RowFilter.Proofs.Text.Numeral
import RowFilter.Proofs.Value.DateTimeFormat
import RowFilter.Value.Basic

/-!
# The layouts of date-time literals

A literal has a layout when every part of it has all its digits: four for the year, two for each other
part, and any number for the fraction of a second. The reader does not know about layouts. It takes
what it finds from the left, blanks and short numbers included, so what has to be shown is that its
lenience does no harm: on a text with a layout no number ends early and none runs on into the next
part (`scanNumber_digits`), and the text is read as the parts that it was put together from.

The calendar is stated apart from the reader, by the lengths of the months (`MonthLength`) and the
4/100/400 rule (`Leap`). A fraction of any length counts with its first nine digits, which is to round
it down to a nanosecond (`placeValue_take_nine`).
-/

set_option autoImplicit false

namespace RowFilter

open Text (DigitsOf IsNumeral placeValue)

namespace DateTime

/-! ## The calendar -/

/-- The leap years of the Gregorian calendar, which is also followed before it was made. -/
def Leap (year : Nat) : Prop := 4 ∣ year ∧ (100 ∣ year → 400 ∣ year)

/-- The month has so many days in this year. -/
inductive MonthLength (year : Nat) : Nat → Nat → Prop
  | long {month : Nat} : month ∈ [1, 3, 5, 7, 8, 10, 12] → MonthLength year month 31
  | short {month : Nat} : month ∈ [4, 6, 9, 11] → MonthLength year month 30
  | leapFebruary : Leap year → MonthLength year 2 29
  | commonFebruary : ¬ Leap year → MonthLength year 2 28

/-- The calendar has this day. -/
def CalendarDay (year month day : Nat) : Prop :=
  (1 ≤ month ∧ month ≤ 12) ∧ ∃ n, MonthLength year month n ∧ 1 ≤ day ∧ day ≤ n

variable {year month day n : Nat}

theorem isLeapYear_iff : isLeapYear year = true ↔ Leap year := by
  unfold isLeapYear Leap
  simp only [Bool.and_eq_true, Bool.or_eq_true, decide_eq_true_eq]
  omega

/-- The length of a month is the one that is looked up. -/
theorem MonthLength.eq_daysInMonth (h : MonthLength year month n) : n = daysInMonth year month := by
  cases h with
  | long hmonth =>
    simp only [List.mem_cons, List.not_mem_nil, or_false] at hmonth
    rcases hmonth with rfl | rfl | rfl | rfl | rfl | rfl | rfl <;> rfl
  | short hmonth =>
    simp only [List.mem_cons, List.not_mem_nil, or_false] at hmonth
    rcases hmonth with rfl | rfl | rfl | rfl <;> rfl
  | leapFebruary hleap => simp [daysInMonth, isLeapYear_iff.mpr hleap]
  | commonFebruary hcommon => simp [daysInMonth, mt isLeapYear_iff.mp hcommon]

/-- What has days is a month. -/
theorem monthLength_daysInMonth (h : 0 < daysInMonth year month) :
    (1 ≤ month ∧ month ≤ 12) ∧ MonthLength year month (daysInMonth year month) := by
  unfold daysInMonth at h ⊢
  split
  case h_12 =>
    refine ⟨by omega, ?_⟩
    by_cases hleap : Leap year
    · rw [if_pos (isLeapYear_iff.mpr hleap)]
      exact .leapFebruary hleap
    · rw [if_neg (mt isLeapYear_iff.mp hleap)]
      exact .commonFebruary hleap
  case h_13 => simp at h
  all_goals first
    | exact ⟨by omega, .long (by decide)⟩
    | exact ⟨by omega, .short (by decide)⟩

theorem calendarDay_iff : CalendarDay year month day ↔ 1 ≤ day ∧ day ≤ daysInMonth year month := by
  constructor
  · intro h
    obtain ⟨-, n, hlength, hday⟩ := h
    rw [← hlength.eq_daysInMonth]
    exact hday
  · intro h
    obtain ⟨hmonth, hlength⟩ := monthLength_daysInMonth (Nat.lt_of_lt_of_le h.1 h.2)
    exact ⟨hmonth, _, hlength, h⟩

/-! ## The layouts -/

/-- A date with all its digits. -/
structure DateText where
  year : List Char
  month : List Char
  day : List Char
  yearDigits : DigitsOf 4 year
  monthDigits : DigitsOf 2 month
  dayDigits : DigitsOf 2 day

/-- A time of day with all its digits. The fraction of a second may have any number of them, and
nothing is written of one that has none. -/
structure TimeText where
  hour : List Char
  minute : List Char
  second : List Char
  fraction : List Char
  hourDigits : DigitsOf 2 hour
  minuteDigits : DigitsOf 2 minute
  secondDigits : DigitsOf 2 second
  fractionDigits : ∀ c ∈ fraction, c.isDigit = true

namespace DateText

def chars (d : DateText) : List Char := d.year ++ '-' :: (d.month ++ '-' :: d.day)

def text (d : DateText) : String := String.ofList d.chars

@[simp]
theorem toList_text (d : DateText) : d.text.toList = d.chars := String.toList_ofList

/-- Year, month and day. -/
def date (d : DateText) : Int × Nat × Nat :=
  (placeValue d.year, placeValue d.month, placeValue d.day)

/-- The date is one of the calendar. -/
def Exists (d : DateText) : Prop :=
  CalendarDay (placeValue d.year) (placeValue d.month) (placeValue d.day)

/-- The start of the day. -/
def midnight (d : DateText) : DateTime :=
  ⟨placeValue d.year, placeValue d.month, placeValue d.day, 0, 0, 0, 0⟩

end DateText

namespace TimeText

def fractionChars : List Char → List Char
  | [] => []
  | c :: r => '.' :: c :: r

def chars (t : TimeText) : List Char :=
  t.hour ++ ':' :: (t.minute ++ ':' :: (t.second ++ fractionChars t.fraction))

def text (t : TimeText) : String := String.ofList t.chars

@[simp]
theorem toList_text (t : TimeText) : t.text.toList = t.chars := String.toList_ofList

/-- The time is one of the day, or of a leap second. -/
def Exists (t : TimeText) : Prop :=
  placeValue t.hour ≤ 23 ∧ placeValue t.minute ≤ 59 ∧ placeValue t.second ≤ 60

/-- The first nine digits of the fraction, with zeros for those that are missing. -/
def nanoseconds (t : TimeText) : Nat :=
  placeValue ((t.fraction ++ List.replicate 9 '0').take 9)

end TimeText

/-- The moment with these parts. The second 60 is second 59 and the second after it. -/
def moment (year : Int) (month day hour minute second nano : Nat) : DateTime :=
  if second = 60 then ⟨year, month, day, hour, minute, 59, nano + 1000000000⟩
  else ⟨year, month, day, hour, minute, second, nano⟩

/-- The time on this day. -/
def DateText.at (d : DateText) (t : TimeText) : DateTime :=
  moment (placeValue d.year) (placeValue d.month) (placeValue d.day) (placeValue t.hour)
    (placeValue t.minute) (placeValue t.second) t.nanoseconds

/-! ## Reading a layout -/

theorem isBlank_of_isDigit {c : Char} (h : c.isDigit = true) : Text.isBlank c = false := by
  have hcode : 48 ≤ c.toNat ∧ c.toNat ≤ 57 := by
    simp only [Char.isDigit, Bool.and_eq_true, decide_eq_true_eq] at h
    exact h
  unfold Text.isBlank Text.CodeRanges.has Text.blankRanges
  simp only [List.any_cons, List.any_nil, Bool.or_false, Bool.or_eq_false_iff,
    Bool.and_eq_false_iff, decide_eq_false_iff_not]
  omega

/-- No blanks are passed over in front of a numeral. -/
theorem trimStart_numeral {digits : List Char} (h : IsNumeral digits) (rest : List Char) :
    Text.trimStart (digits ++ rest) = digits ++ rest := by
  obtain ⟨c, r, rfl⟩ := List.exists_cons_of_ne_nil h.1
  have hc : Text.isBlank c = false := isBlank_of_isDigit (h.2 c List.mem_cons_self)
  simp [Text.trimStart, hc]

/-- A number with all its digits is read, and nothing behind it. -/
theorem scanNumber_digits {k : Nat} {digits : List Char} (h : DigitsOf (k + 1) digits)
    (rest : List Char) :
    scanNumber (k + 1) (digits ++ rest) = some (placeValue digits, rest) := by
  have htake : (digits ++ rest).take (k + 1) = digits := List.take_left' h.1
  have hdigits : digits.takeWhile Char.isDigit = digits := List.takeWhile_eq_self_iff.mpr h.2
  simp [scanNumber, trimStart_numeral h.isNumeral, htake, hdigits, h.isNumeral.1,
    Text.digitsValue_eq_placeValue]

theorem scanYear_digits {digits : List Char} (h : DigitsOf 4 digits) (rest : List Char) :
    scanYear (digits ++ rest) = some ((placeValue digits : Int), rest) := by
  have hread := scanNumber_digits h rest
  unfold scanYear
  rw [trimStart_numeral h.isNumeral]
  -- A digit comes first, so it is the branch without a sign that reads.
  obtain ⟨c, r, rfl⟩ := List.exists_cons_of_ne_nil h.isNumeral.1
  obtain ⟨hplus, hminus⟩ := h.isNumeral.head
  split
  · next heq => exact absurd (List.cons.inj heq).1 hminus
  · next heq => exact absurd (List.cons.inj heq).1 hplus
  · rw [hread]
    rfl

/-- A date with all its digits is read, and nothing behind it. -/
theorem scanDate_chars (d : DateText) (rest : List Char) :
    scanDate (d.chars ++ rest) = some (d.date, rest) := by
  simp [scanDate, DateText.chars, DateText.date, scanYear_digits d.yearDigits, expect,
    scanNumber_digits d.monthDigits, scanNumber_digits d.dayDigits]

theorem scanFraction_digits {digits : List Char} (h : ∀ c ∈ digits, c.isDigit = true) :
    scanFraction (TimeText.fractionChars digits) =
      some (placeValue ((digits ++ List.replicate 9 '0').take 9), []) := by
  cases digits with
  | nil => rfl
  | cons c r =>
    have hdigits : (c :: r).takeWhile Char.isDigit = c :: r := List.takeWhile_eq_self_iff.mpr h
    have hrest : (c :: r).dropWhile Char.isDigit = [] := List.dropWhile_eq_nil_iff.mpr h
    rw [TimeText.fractionChars, scanFraction]
    simp only [hdigits, hrest]
    rw [nanosOfFraction, Text.digitsValue_eq_placeValue]
    rfl

/-- Nine digits of a fraction are all that a nanosecond is exact to. -/
theorem placeValue_take_nine {digits : List Char} (h : ∀ c ∈ digits, c.isDigit = true) :
    placeValue ((digits ++ List.replicate 9 '0').take 9) =
      placeValue digits * 10 ^ 9 / 10 ^ digits.length := by
  by_cases hlength : digits.length ≤ 9
  · -- Digits are missing, and multiplying makes up for them.
    have hpad : (digits ++ List.replicate 9 '0').take 9 =
        digits ++ List.replicate (9 - digits.length) '0' := by
      rw [List.take_append, List.take_of_length_le hlength, List.take_replicate]
      simp
    have hpow : 10 ^ 9 = 10 ^ (9 - digits.length) * 10 ^ digits.length := by
      rw [← Nat.pow_add, Nat.sub_add_cancel hlength]
    rw [hpad, Text.placeValue_append, Text.placeValue_replicate_zero, List.length_replicate, hpow,
      ← Nat.mul_assoc, Nat.mul_div_cancel _ (Nat.pow_pos (by omega)), Nat.add_zero]
  · -- Digits are left over, and dividing cuts them off.
    have hcut : (digits ++ List.replicate 9 '0').take 9 = digits.take 9 :=
      List.take_append_of_le_length (by omega)
    have hvalue := Text.placeValue_append (digits.take 9) (digits.drop 9)
    rw [List.take_append_drop, List.length_drop] at hvalue
    have hrest : placeValue (digits.drop 9) < 10 ^ (digits.length - 9) := by
      have hlt := Text.placeValue_lt (s := digits.drop 9) fun c hc => h c (List.mem_of_mem_drop hc)
      rw [List.length_drop] at hlt
      exact hlt
    have hpow : 10 ^ digits.length = 10 ^ (digits.length - 9) * 10 ^ 9 := by
      rw [← Nat.pow_add, Nat.sub_add_cancel (by omega)]
    rw [hcut, hpow, Nat.mul_div_mul_right _ _ (Nat.pow_pos (by omega)), hvalue, Nat.mul_comm,
      Nat.mul_add_div (Nat.pow_pos (by omega)), Nat.div_eq_of_lt hrest, Nat.add_zero]

theorem readTime?_chars (t : TimeText) : readTime? t.chars =
    some (placeValue t.hour, placeValue t.minute, placeValue t.second, t.nanoseconds) := by
  simp [readTime?, TimeText.chars, scanNumber_digits t.hourDigits, expect,
    scanNumber_digits t.minuteDigits, scanNumber_digits t.secondDigits,
    scanFraction_digits t.fractionDigits, TimeText.nanoseconds]

/-- The time may be one blank away from the date. -/
theorem readTimeAfterDate?_space (s : List Char) :
    readTimeAfterDate? (' ' :: s) = readTimeAfterDate? ('T' :: s) := by
  have hspace : Text.trimStart (' ' :: s) = Text.trimStart s :=
    List.dropWhile_cons_of_pos (by decide)
  show readTime? (' ' :: s) = readTime? s
  rw [← readTime?_trimStart, hspace, readTime?_trimStart]

/-! ## The moment of a layout -/

theorem read?_chars (d : DateText) (rest : List Char) :
    read? (d.chars ++ rest) = (readTimeAfterDate? rest).bind (withTime? d.date) := by
  rw [read?_eq_bind, scanDate_chars, Option.bind_some]

/-- What can be represented is decided by the calendar and the clock alone. -/
theorem valid_moment_iff {hour minute second nano : Nat} (hyear : year < 10 ^ 4)
    (hnano : nano < 10 ^ 9) : (moment year month day hour minute second nano).Valid ↔
      CalendarDay year month day ∧ hour ≤ 23 ∧ minute ≤ 59 ∧ second ≤ 60 := by
  rw [calendarDay_iff]
  unfold moment Valid nanosPerSecond
  by_cases hleap : second = 60
  · simp only [hleap, if_true]
    omega
  · simp only [hleap, if_false]
    by_cases hlast : second = 59
    · simp only [hlast, if_true]
      omega
    · simp only [hlast, if_false]
      omega

/-- Parts make the moment with these parts, if it exists. -/
theorem ofParts?_eq_some_iff_valid {year : Int} {hour minute second nano : Nat} {v : DateTime} :
    ofParts? year month day hour minute second nano = some v ↔
      (moment year month day hour minute second nano).Valid ∧
        v = moment year month day hour minute second nano := by
  show (if (moment year month day hour minute second nano).Valid then
    some (moment year month day hour minute second nano) else none) = some v ↔ _
  rw [Option.ite_none_right_eq_some, Option.some_inj, eq_comm (a := v)]

theorem ofParts?_eq_some {hour minute second nano : Nat} {v : DateTime} (hyear : year < 10 ^ 4)
    (hnano : nano < 10 ^ 9) : ofParts? year month day hour minute second nano = some v ↔
      (CalendarDay year month day ∧ hour ≤ 23 ∧ minute ≤ 59 ∧ second ≤ 60) ∧
        v = moment year month day hour minute second nano := by
  rw [ofParts?_eq_some_iff_valid, valid_moment_iff hyear hnano]

theorem DateText.year_lt (d : DateText) : placeValue d.year < 10 ^ 4 := by
  have h := Text.placeValue_lt d.yearDigits.2
  rw [d.yearDigits.1] at h
  exact h

theorem TimeText.padded_digits (t : TimeText) :
    DigitsOf 9 ((t.fraction ++ List.replicate 9 '0').take 9) := by
  constructor
  · simp
  · intro c hc
    have hmem := List.mem_of_mem_take hc
    rw [List.mem_append, List.mem_replicate] at hmem
    cases hmem with
    | inl hfraction => exact t.fractionDigits c hfraction
    | inr hzero => simp [hzero.2]

theorem TimeText.nanoseconds_lt (t : TimeText) : t.nanoseconds < 10 ^ 9 := by
  have h := Text.placeValue_lt t.padded_digits.2
  rw [t.padded_digits.1] at h
  exact h

end DateTime

namespace Value

open DateTime (DateText TimeText)

/-- The date is read first, and the rest of the literal for itself. -/
theorem ofLiteral?_date (d : DateText) (s : String) : ofLiteral? .dateTime (d.text ++ s) =
    ((DateTime.readTimeAfterDate? s.toList).bind (DateTime.withTime? d.date)).map .dateTime := by
  have htext : (d.text ++ s).toList = d.chars ++ s.toList := by simp
  unfold ofLiteral?
  rw [htext, DateTime.read?_chars]

theorem ofLiteral?_date_eq_some {d : DateText} {s : String} {hour minute second nano : Nat}
    (hread : DateTime.readTimeAfterDate? s.toList = some (hour, minute, second, nano))
    (hnano : nano < 10 ^ 9) {v : Value} : ofLiteral? .dateTime (d.text ++ s) = some v ↔
      (d.Exists ∧ hour ≤ 23 ∧ minute ≤ 59 ∧ second ≤ 60) ∧
        v = .dateTime (DateTime.moment (placeValue d.year) (placeValue d.month) (placeValue d.day)
          hour minute second nano) := by
  rw [ofLiteral?_date, hread, Option.bind_some, Option.map_eq_some_iff]
  constructor
  · intro h
    obtain ⟨m, hm, rfl⟩ := h
    obtain ⟨hvalid, rfl⟩ := (DateTime.ofParts?_eq_some d.year_lt hnano).mp hm
    exact ⟨hvalid, rfl⟩
  · intro h
    exact ⟨_, (DateTime.ofParts?_eq_some d.year_lt hnano).mpr ⟨h.1, rfl⟩, h.2.symm⟩

/-- **Layouts denote moments.** A date with all its digits is read as its midnight, and a date with a
time as that time on the date, exactly if the calendar has the date and the day has the time. The time
may follow after a letter or a blank, and midnight may be left out. -/
theorem layouts_denote_moments (d : DateText) (t : TimeText) :
    (∀ v, ofLiteral? .dateTime d.text = some v ↔ d.Exists ∧ v = .dateTime d.midnight) ∧
    (∀ v, ofLiteral? .dateTime (d.text ++ "T" ++ t.text) = some v ↔
      (d.Exists ∧ t.Exists) ∧ v = .dateTime (d.at t)) ∧
    (∀ s, ofLiteral? .dateTime (d.text ++ " " ++ s) = ofLiteral? .dateTime (d.text ++ "T" ++ s)) ∧
    ofLiteral? .dateTime d.text = ofLiteral? .dateTime (d.text ++ "T00:00:00") := by
  refine ⟨?_, ?_, ?_, ?_⟩
  · intro v
    have hread := ofLiteral?_date_eq_some (d := d) (s := "") (v := v) rfl (by decide)
    rw [String.append_empty] at hread
    simpa [DateTime.moment, DateText.midnight] using hread
  · intro v
    have htime : DateTime.readTimeAfterDate? ("T" ++ t.text).toList =
        some (placeValue t.hour, placeValue t.minute, placeValue t.second, t.nanoseconds) := by
      have htext : ("T" ++ t.text).toList = 'T' :: t.chars := by simp
      rw [htext]
      exact DateTime.readTime?_chars t
    rw [String.append_assoc]
    exact ofLiteral?_date_eq_some htime t.nanoseconds_lt
  · intro s
    have hblank : (" " ++ s).toList = ' ' :: s.toList := by simp
    have hletter : ("T" ++ s).toList = 'T' :: s.toList := by simp
    rw [String.append_assoc, String.append_assoc, ofLiteral?_date, ofLiteral?_date, hblank, hletter,
      DateTime.readTimeAfterDate?_space]
  · have hmidnight : DateTime.readTimeAfterDate? "T00:00:00".toList =
        DateTime.readTimeAfterDate? "".toList := by decide +kernel
    rw [ofLiteral?_date, hmidnight, ← ofLiteral?_date, String.append_empty]

/-- A leap second of a year without a leap day, and its fraction. -/
example : ofLiteral? .dateTime "2017-02-28 23:59:60.5" =
    some (.dateTime ⟨2017, 2, 28, 23, 59, 59, 1500000000⟩) := by decide +kernel

end Value
end RowFilter
