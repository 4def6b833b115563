import RowFilter.Proofs.Value.DateTimeNumber

/-!
# All the ways to write a date and a time

The layouts are not all that the reader takes. It passes over blanks in front of every number, is
content with fewer digits, takes a year with a sign, and needs nothing between the date and the time.
What it does take is a `Writing`: the numbers with their blanks and digits, and the marks between
them. Every literal that is read has a writing, every writing of a moment that exists is read as that
moment (`read?_eq_some`), and a literal has one writing only (`Writing.unique`).

There is one thing that a writing has to see to, that the day does not take the first digit of an hour
right behind it (`Writing.apart`); every other number has a mark behind it, or the end of the text.
-/

set_option autoImplicit false

namespace RowFilter

open Text (DigitsOf placeValue)

namespace DateTime

/-! ## Dates -/

theorem expect_eq_some {c : Char} {s r : List Char} : expect c s = some r ↔ s = c :: r := by
  cases s with
  | nil => simp [expect]
  | cons d s => by_cases h : d = c <;> simp [expect, h]

/-- A date: a year, a month and a day with hyphens in between. -/
@[ext]
structure DateWriting where
  year : YearText
  month : NumberText 2
  day : NumberText 2

namespace DateWriting

def chars (d : DateWriting) : List Char :=
  d.year.chars ++ '-' :: (d.month.chars ++ '-' :: d.day.chars)

def date (d : DateWriting) : Int × Nat × Nat := (d.year.value, d.month.value, d.day.value)

def Full (d : DateWriting) : Prop := d.year.Full ∧ d.month.Full [] ∧ d.day.Full []

end DateWriting

theorem scanDate_eq_some {s rest : List Char} {date : Int × Nat × Nat} :
    scanDate s = some (date, rest) ↔
      ∃ d : DateWriting, s = d.chars ++ rest ∧ d.date = date ∧ d.day.EndsBefore rest := by
  have hhyphen : ∀ r, Stops ('-' :: r) := stops_cons rfl
  simp only [scanDate, Option.bind_eq_bind, Option.bind_eq_some_iff, Prod.exists, Option.pure_def,
    Option.some_inj, Prod.mk.injEq, expect_eq_some]
  constructor
  · rintro ⟨y, _, hyear, s₁, rfl, m, _, hmonth, s₂, rfl, n, _, hday, rfl, rfl⟩
    obtain ⟨year, rfl, rfl⟩ := (scanYear_eq_some (hhyphen s₁)).mp hyear
    obtain ⟨month, rfl, rfl, -⟩ := scanNumber_eq_some.mp hmonth
    obtain ⟨day, rfl, rfl, hends⟩ := scanNumber_eq_some.mp hday
    exact ⟨⟨year, month, day⟩, by simp [DateWriting.chars], rfl, hends⟩
  · rintro ⟨d, rfl, rfl, hends⟩
    refine ⟨_, _, (scanYear_eq_some (hhyphen _)).mpr ⟨d.year, ?_, rfl⟩, _, rfl, _, _,
      d.month.scan (Or.inr (hhyphen _)), _, rfl, _, _, d.day.scan hends, rfl, rfl⟩
    simp [DateWriting.chars]

theorem DateWriting.unique {d d' : DateWriting} {rest rest' : List Char}
    (hrest : d.day.EndsBefore rest) (hrest' : d'.day.EndsBefore rest')
    (h : d.chars ++ rest = d'.chars ++ rest') : d = d' ∧ rest = rest' := by
  have hhyphen : ∀ r, Stops ('-' :: r) := stops_cons rfl
  simp only [chars, List.append_assoc, List.cons_append] at h
  obtain ⟨hyear, h⟩ := YearText.unique (hhyphen _) (hhyphen _) h
  obtain ⟨hmonth, h⟩ := NumberText.unique (Or.inr (hhyphen _)) (Or.inr (hhyphen _))
    (List.cons.inj h).2
  obtain ⟨hday, h⟩ := NumberText.unique hrest hrest' (List.cons.inj h).2
  exact ⟨DateWriting.ext hyear hmonth hday, h⟩

/-! ## Times -/

/-- A time of day: an hour, a minute and a second with colons in between, and the digits of a
fraction. -/
@[ext]
structure TimeWriting where
  hour : NumberText 2
  minute : NumberText 2
  second : NumberText 2
  fraction : List Char
  fractionDigits : ∀ c ∈ fraction, c.isDigit = true

namespace TimeWriting

def chars (t : TimeWriting) : List Char :=
  t.hour.chars ++
    ':' :: (t.minute.chars ++ ':' :: (t.second.chars ++ TimeText.fractionChars t.fraction))

/-- The fraction of the second, rounded down to a nanosecond. -/
def nanoseconds (t : TimeWriting) : Nat :=
  placeValue t.fraction * 10 ^ 9 / 10 ^ t.fraction.length

/-- Hour, minute, second and nanosecond. -/
def time (t : TimeWriting) : Nat × Nat × Nat × Nat :=
  (t.hour.value, t.minute.value, t.second.value, t.nanoseconds)

/-- All three numbers have two digits, and there are no blanks but these in front of the hour. -/
def Full (t : TimeWriting) (blanks : List Char) : Prop :=
  t.hour.Full blanks ∧ t.minute.Full [] ∧ t.second.Full []

end TimeWriting

theorem stops_fractionChars (digits : List Char) : Stops (TimeText.fractionChars digits) := by
  cases digits with
  | nil => simp [Stops, TimeText.fractionChars]
  | cons c r => exact stops_cons rfl _

theorem fractionChars_injective {a b : List Char}
    (h : TimeText.fractionChars a = TimeText.fractionChars b) : a = b := by
  cases a with
  | nil => cases b with
    | nil => rfl
    | cons d r' => cases h
  | cons c r => cases b with
    | nil => cases h
    | cons d r' => exact (List.cons.inj h).2

/-- A fraction that ends the text is read, and no text without a fraction is. -/
theorem scanFraction_eq_some {s : List Char} {n : Nat} :
    scanFraction s = some (n, []) ↔ ∃ digits, (∀ c ∈ digits, c.isDigit = true) ∧
      s = TimeText.fractionChars digits ∧ placeValue digits * 10 ^ 9 / 10 ^ digits.length = n := by
  constructor
  · intro h
    unfold scanFraction at h
    split at h
    · next r =>
      simp only at h
      by_cases hnil : r.takeWhile Char.isDigit = []
      · simp [hnil] at h
      · rw [if_neg (by simpa using hnil), Option.some_inj, Prod.mk.injEq] at h
        have hall : r.takeWhile Char.isDigit = r := by
          have hboth := List.takeWhile_append_dropWhile (p := Char.isDigit) (l := r)
          rwa [h.2, List.append_nil] at hboth
        have hdigits : ∀ c ∈ r, c.isDigit = true := List.takeWhile_eq_self_iff.mp hall
        rw [hall, nanosOfFraction, Text.digitsValue_eq_placeValue, placeValue_take_nine hdigits] at h
        rw [hall] at hnil
        obtain ⟨c, r, rfl⟩ := List.exists_cons_of_ne_nil hnil
        exact ⟨c :: r, hdigits, rfl, h.1⟩
    · cases h
      exact ⟨[], by simp, rfl, by decide⟩
  · rintro ⟨digits, hdigits, rfl, rfl⟩
    rw [scanFraction_digits hdigits, placeValue_take_nine hdigits]

theorem readTime?_eq_some {s : List Char} {time : Nat × Nat × Nat × Nat} :
    readTime? s = some time ↔ ∃ t : TimeWriting, s = t.chars ∧ t.time = time := by
  have hcolon : ∀ r, Stops (':' :: r) := stops_cons rfl
  simp only [readTime?, Option.bind_eq_bind, Option.bind_eq_some_iff, Prod.exists, Option.pure_def,
    Option.ite_none_right_eq_some, Option.some_inj, expect_eq_some, List.isEmpty_iff]
  constructor
  · rintro ⟨h, _, hhour, s₁, rfl, m, _, hminute, s₂, rfl, n, s₃, hsecond, f, _, hfraction, rfl, rfl⟩
    obtain ⟨hour, rfl, rfl, -⟩ := scanNumber_eq_some.mp hhour
    obtain ⟨minute, rfl, rfl, -⟩ := scanNumber_eq_some.mp hminute
    obtain ⟨second, rfl, rfl, -⟩ := scanNumber_eq_some.mp hsecond
    obtain ⟨digits, hdigits, rfl, rfl⟩ := scanFraction_eq_some.mp hfraction
    exact ⟨⟨hour, minute, second, digits, hdigits⟩, rfl, rfl⟩
  · rintro ⟨t, rfl, rfl⟩
    exact ⟨_, _, t.hour.scan (Or.inr (hcolon _)), _, rfl, _, _, t.minute.scan (Or.inr (hcolon _)), _,
      rfl, _, _, t.second.scan (Or.inr (stops_fractionChars _)), _, _,
      scanFraction_eq_some.mpr ⟨_, t.fractionDigits, rfl, rfl⟩, rfl, rfl⟩

theorem TimeWriting.unique {t t' : TimeWriting} (h : t.chars = t'.chars) : t = t' := by
  have hcolon : ∀ r, Stops (':' :: r) := stops_cons rfl
  obtain ⟨hhour, h⟩ := NumberText.unique (Or.inr (hcolon _)) (Or.inr (hcolon _)) h
  obtain ⟨hminute, h⟩ := NumberText.unique (Or.inr (hcolon _)) (Or.inr (hcolon _))
    (List.cons.inj h).2
  obtain ⟨hsecond, h⟩ := NumberText.unique (Or.inr (stops_fractionChars _))
    (Or.inr (stops_fractionChars _)) (List.cons.inj h).2
  exact TimeWriting.ext hhour hminute hsecond (fractionChars_injective h)

/-! ## Literals -/

/-- What stands behind a date: nothing at midnight, or else a time, with a letter in front or
without. -/
inductive Clock where
  | midnight
  | afterLetter (time : TimeWriting)
  | afterGap (time : TimeWriting)

namespace Clock

def chars : Clock → List Char
  | midnight => []
  | afterLetter t => 'T' :: t.chars
  | afterGap t => t.chars

def time : Clock → Nat × Nat × Nat × Nat
  | midnight => (0, 0, 0, 0)
  | afterLetter t | afterGap t => t.time

/-- The time has all its digits and no blanks, but for one space where there is no letter. -/
def Full : Clock → Prop
  | midnight => True
  | afterLetter t => t.Full []
  | afterGap t => t.Full [' ']

end Clock

/-- The letter is no part of a time. -/
theorem TimeWriting.chars_ne_letter (t : TimeWriting) (r : List Char) : t.chars ≠ 'T' :: r := by
  intro h
  unfold chars NumberText.chars at h
  cases hblanks : t.hour.blanks with
  | nil =>
    obtain ⟨c, digits, hd⟩ := List.exists_cons_of_ne_nil t.hour.numeral.1
    have hdigit := t.hour.numeral.2 c (by simp [hd])
    rw [hblanks, hd] at h
    rw [(List.cons.inj h).1] at hdigit
    exact absurd hdigit (by decide)
  | cons c blanks =>
    have hblank := List.all_eq_true.mp t.hour.allBlank c (by simp [hblanks])
    rw [hblanks] at h
    rw [(List.cons.inj h).1] at hblank
    exact absurd hblank (by decide)

theorem TimeWriting.chars_ne_nil (t : TimeWriting) : t.chars ≠ [] := by
  simp [chars]

theorem readTimeAfterDate?_eq_some {s : List Char} {time : Nat × Nat × Nat × Nat} :
    readTimeAfterDate? s = some time ↔ ∃ c : Clock, s = c.chars ∧ c.time = time := by
  constructor
  · intro h
    unfold readTimeAfterDate? at h
    split at h
    · exact ⟨.midnight, rfl, Option.some.inj h⟩
    · obtain ⟨t, rfl, ht⟩ := readTime?_eq_some.mp h
      exact ⟨.afterLetter t, rfl, ht⟩
    · obtain ⟨t, rfl, ht⟩ := readTime?_eq_some.mp h
      exact ⟨.afterGap t, rfl, ht⟩
  · rintro ⟨c, rfl, rfl⟩
    cases c with
    | midnight => rfl
    | afterLetter t => exact readTime?_eq_some.mpr ⟨t, rfl, rfl⟩
    | afterGap t =>
      unfold readTimeAfterDate?
      split
      · next h => exact absurd h t.chars_ne_nil
      · next h => exact absurd h (t.chars_ne_letter _)
      · exact readTime?_eq_some.mpr ⟨t, rfl, rfl⟩

theorem Clock.unique {c c' : Clock} (h : c.chars = c'.chars) : c = c' := by
  cases c with
  | midnight => cases c' with
    | midnight => rfl
    | afterLetter t' => cases h
    | afterGap t' => exact absurd h.symm t'.chars_ne_nil
  | afterLetter t => cases c' with
    | midnight => cases h
    | afterLetter t' => rw [TimeWriting.unique (List.cons.inj h).2]
    | afterGap t' => exact absurd h.symm (t'.chars_ne_letter _)
  | afterGap t => cases c' with
    | midnight => exact absurd h t.chars_ne_nil
    | afterLetter t' => exact absurd h (t.chars_ne_letter _)
    | afterGap t' => rw [TimeWriting.unique h]

/-- A date, and what stands behind it. The day has two digits, or no digit comes next. -/
@[ext]
structure Writing where
  date : DateWriting
  clock : Clock
  apart : date.day.EndsBefore clock.chars

namespace Writing

def chars (w : Writing) : List Char := w.date.chars ++ w.clock.chars

def text (w : Writing) : String := String.ofList w.chars

@[simp]
theorem toList_text (w : Writing) : w.text.toList = w.date.chars ++ w.clock.chars :=
  String.toList_ofList

def moment (w : Writing) : DateTime :=
  let (year, month, day) := w.date.date
  let (hour, minute, second, nano) := w.clock.time
  DateTime.moment year month day hour minute second nano

/-- All the numbers have all their digits, and what stands between them is what has to. -/
def Full (w : Writing) : Prop := w.date.Full ∧ w.clock.Full

end Writing

/-- **A literal is read exactly if it is the writing of a moment that there is.** -/
theorem read?_eq_some {s : List Char} {v : DateTime} :
    read? s = some v ↔ ∃ w : Writing, s = w.chars ∧ w.moment.Valid ∧ v = w.moment := by
  have hmoment : ∀ (w : Writing) (v : DateTime),
      withTime? w.date.date w.clock.time = some v ↔ w.moment.Valid ∧ v = w.moment :=
    fun w v => ofParts?_eq_some_iff_valid
  rw [read?_eq_bind, Option.bind_eq_some_iff]
  constructor
  · rintro ⟨⟨date, rest⟩, hdate, hrest⟩
    obtain ⟨time, htime, hv⟩ := Option.bind_eq_some_iff.mp hrest
    obtain ⟨d, rfl, rfl, hends⟩ := scanDate_eq_some.mp hdate
    obtain ⟨c, rfl, rfl⟩ := readTimeAfterDate?_eq_some.mp htime
    exact ⟨⟨d, c, hends⟩, rfl, (hmoment ⟨d, c, hends⟩ v).mp hv⟩
  · rintro ⟨w, rfl, hv⟩
    have hdate := scanDate_eq_some.mpr ⟨w.date, rfl, rfl, w.apart⟩
    have htime := readTimeAfterDate?_eq_some.mpr ⟨w.clock, rfl, rfl⟩
    exact ⟨_, hdate, Option.bind_eq_some_iff.mpr ⟨_, htime, (hmoment w v).mpr hv⟩⟩

/-- A literal has one writing at most. -/
theorem Writing.unique {w w' : Writing} (h : w.chars = w'.chars) : w = w' := by
  obtain ⟨hdate, hclock⟩ := DateWriting.unique w.apart w'.apart h
  exact Writing.ext hdate (Clock.unique hclock)

/-! ## The writings that have a layout -/

/-- The text is a date, or a date and a time with a letter or one space in between, all with all
their digits. -/
def HasLayout (s : String) : Prop :=
  ∃ d : DateText, s = d.text ∨
    ∃ t : TimeText, s = d.text ++ "T" ++ t.text ∨ s = d.text ++ " " ++ t.text

theorem HasLayout.length_le {s : String} (h : HasLayout s) : 10 ≤ s.toList.length := by
  have hdate : ∀ d : DateText, d.text.toList.length = 10 := by
    intro d
    simp [DateText.chars, d.yearDigits.1, d.monthDigits.1, d.dayDigits.1]
  obtain ⟨d, rfl | ⟨t, rfl | rfl⟩⟩ := h
  · rw [hdate]
  · simp only [String.toList_append, List.length_append, hdate]
    omega
  · simp only [String.toList_append, List.length_append, hdate]
    omega

/-- The number with these two digits, and these blanks in front. -/
def NumberText.ofDigits {digits : List Char} (h : DigitsOf 2 digits) (blanks : List Char)
    (hblanks : Text.allBlank blanks = true) : NumberText 2 :=
  ⟨blanks, digits, hblanks, h.isNumeral, h.1.le⟩

theorem DateText.exists_full (t : DateText) : ∃ d : DateWriting, d.Full ∧ d.chars = t.chars :=
  ⟨⟨⟨[], .none, t.year, rfl, t.yearDigits.isNumeral, fun _ => t.yearDigits.1.le⟩,
    .ofDigits t.monthDigits [] rfl, .ofDigits t.dayDigits [] rfl⟩,
    ⟨⟨rfl, rfl, t.yearDigits.1⟩, ⟨rfl, t.monthDigits.1⟩, ⟨rfl, t.dayDigits.1⟩⟩, rfl⟩

theorem TimeText.exists_full (t : TimeText) (blanks : List Char)
    (hblanks : Text.allBlank blanks = true) :
    ∃ u : TimeWriting, u.Full blanks ∧ u.chars = blanks ++ t.chars := by
  refine ⟨⟨.ofDigits t.hourDigits blanks hblanks, .ofDigits t.minuteDigits [] rfl,
    .ofDigits t.secondDigits [] rfl, t.fraction, t.fractionDigits⟩,
    ⟨⟨rfl, t.hourDigits.1⟩, ⟨rfl, t.minuteDigits.1⟩, ⟨rfl, t.secondDigits.1⟩⟩, ?_⟩
  simp [TimeWriting.chars, NumberText.chars, NumberText.ofDigits, TimeText.chars]

theorem DateWriting.Full.exists_dateText {d : DateWriting} (h : d.Full) :
    ∃ t : DateText, t.chars = d.chars := by
  obtain ⟨⟨hblanks, hsign, hyear⟩, ⟨hmonth, hmonthLength⟩, ⟨hday, hdayLength⟩⟩ := h
  refine ⟨⟨d.year.digits, d.month.digits, d.day.digits, ⟨hyear, d.year.numeral.2⟩,
    ⟨hmonthLength, d.month.numeral.2⟩, ⟨hdayLength, d.day.numeral.2⟩⟩, ?_⟩
  simp [DateText.chars, chars, YearText.chars, NumberText.chars, hblanks, hsign, Sign.chars, hmonth,
    hday]

theorem TimeWriting.Full.exists_timeText {u : TimeWriting} {blanks : List Char}
    (h : u.Full blanks) : ∃ t : TimeText, u.chars = blanks ++ t.chars := by
  obtain ⟨⟨hhour, hhourLength⟩, ⟨hminute, hminuteLength⟩, ⟨hsecond, hsecondLength⟩⟩ := h
  refine ⟨⟨u.hour.digits, u.minute.digits, u.second.digits, u.fraction,
    ⟨hhourLength, u.hour.numeral.2⟩, ⟨hminuteLength, u.minute.numeral.2⟩,
    ⟨hsecondLength, u.second.numeral.2⟩, u.fractionDigits⟩, ?_⟩
  simp [TimeText.chars, chars, NumberText.chars, hhour, hminute, hsecond]

/-- The texts with a layout are those of the full writings. -/
theorem hasLayout_iff {s : String} : HasLayout s ↔ ∃ w : Writing, w.Full ∧ w.text = s := by
  constructor
  · rintro ⟨t, h⟩
    obtain ⟨d, hfull, hchars⟩ := t.exists_full
    -- A day with both digits takes no more, whatever comes next.
    have hends : ∀ rest, d.day.EndsBefore rest := fun rest => Or.inl hfull.2.2.2
    rcases h with rfl | ⟨time, rfl | rfl⟩
    · refine ⟨⟨d, .midnight, hends _⟩, ⟨hfull, trivial⟩, String.toList_inj.mp ?_⟩
      simp [Clock.chars, hchars]
    · obtain ⟨u, hclock, hu⟩ := time.exists_full [] rfl
      refine ⟨⟨d, .afterLetter u, hends _⟩, ⟨hfull, hclock⟩, String.toList_inj.mp ?_⟩
      simp [Clock.chars, hchars, hu]
    · obtain ⟨u, hclock, hu⟩ := time.exists_full [' '] (by decide)
      refine ⟨⟨d, .afterGap u, hends _⟩, ⟨hfull, hclock⟩, String.toList_inj.mp ?_⟩
      simp [Clock.chars, hchars, hu]
  · rintro ⟨⟨d, c, hends⟩, ⟨hdate, hclock⟩, rfl⟩
    obtain ⟨t, ht⟩ := hdate.exists_dateText
    refine ⟨t, ?_⟩
    cases c with
    | midnight =>
      refine Or.inl (String.toList_inj.mp ?_)
      simp [Clock.chars, ht]
    | afterLetter u =>
      obtain ⟨time, hu⟩ := TimeWriting.Full.exists_timeText hclock
      refine Or.inr ⟨time, Or.inl (String.toList_inj.mp ?_)⟩
      simp [Clock.chars, ht, hu]
    | afterGap u =>
      obtain ⟨time, hu⟩ := TimeWriting.Full.exists_timeText hclock
      refine Or.inr ⟨time, Or.inr (String.toList_inj.mp ?_)⟩
      simp [Clock.chars, ht, hu]

end DateTime
end RowFilter
