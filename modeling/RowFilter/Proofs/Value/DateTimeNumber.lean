import RowFilter.Proofs.Text.Spacing
import RowFilter.Proofs.Value.DateTime

/-!
# The numbers of a date and a time

The reader passes over blanks in front of a number and takes digits as long as there are any, up to
the width of the number. So what is taken as a number is a `NumberText`, and as a year, which may have
a sign, a `YearText`. What a reader takes, and what it leaves, is stated by these alone
(`scanNumber_eq_some`, `scanYear_eq_some`): it takes such a text exactly if the text goes on no further
behind it, and only one start of a text is of this kind (`NumberText.unique`, `YearText.unique`).
-/

set_option autoImplicit false

namespace RowFilter

open Text (IsNumeral placeValue)

namespace DateTime

/-! ## Numbers -/

/-- No digit comes next. -/
def Stops (rest : List Char) : Prop := ∀ c ∈ rest.head?, c.isDigit = false

theorem stops_cons {c : Char} (h : c.isDigit = false) (r : List Char) : Stops (c :: r) := by
  intro d hd
  rw [← Option.some.inj hd, h]

/-- A number: blanks, and then digits, one at least and no more than its width. -/
@[ext]
structure NumberText (width : Nat) where
  blanks : List Char
  digits : List Char
  allBlank : Text.allBlank blanks = true
  numeral : IsNumeral digits
  short : digits.length ≤ width

namespace NumberText

variable {width : Nat}

def chars (t : NumberText width) : List Char := t.blanks ++ t.digits

def value (t : NumberText width) : Nat := placeValue t.digits

/-- The number goes on no further in this text: it has all the digits it can have, or no digit
comes next. -/
def EndsBefore (t : NumberText width) (rest : List Char) : Prop :=
  t.digits.length = width ∨ Stops rest

/-- The number has all its digits, and these blanks in front. -/
def Full (t : NumberText width) (blanks : List Char) : Prop :=
  t.blanks = blanks ∧ t.digits.length = width

end NumberText

/-- The digits in front, up to a number of them. -/
theorem takeWhile_take_digits {width : Nat} {digits rest : List Char}
    (hdigits : ∀ c ∈ digits, c.isDigit = true) (hshort : digits.length ≤ width)
    (hends : digits.length = width ∨ Stops rest) :
    ((digits ++ rest).take width).takeWhile Char.isDigit = digits := by
  rw [List.take_append, List.take_of_length_le hshort]
  refine Text.takeWhile_append_of_head hdigits fun c hc => ?_
  rcases hends with hfull | hstops
  · simp [hfull] at hc
  · refine hstops c ?_
    cases rest with
    | nil => simp at hc
    | cons d rest =>
      cases hleft : width - digits.length with
      | zero => simp [hleft] at hc
      | succ n => simpa [hleft] using hc

theorem exists_takeWhile_take_digits (width : Nat) (s : List Char) :
    ∃ rest, s = (s.take width).takeWhile Char.isDigit ++ rest ∧
      (((s.take width).takeWhile Char.isDigit).length = width ∨ Stops rest) := by
  induction s generalizing width with
  | nil => exact ⟨[], by simp, Or.inr (by simp [Stops])⟩
  | cons c s ih =>
    cases width with
    | zero => exact ⟨c :: s, rfl, Or.inl rfl⟩
    | succ width =>
      rw [List.take_succ_cons, List.takeWhile_cons]
      cases hc : c.isDigit with
      | false => exact ⟨c :: s, rfl, Or.inr (by simpa [Stops] using hc)⟩
      | true =>
        obtain ⟨rest, hs, hends⟩ := ih width
        refine ⟨rest, by rw [if_pos rfl, List.cons_append, ← hs], hends.imp_left fun hfull => ?_⟩
        rw [if_pos rfl, List.length_cons, hfull]

theorem trimStart_blanks {blanks digits : List Char} (hblanks : Text.allBlank blanks = true)
    (hdigits : IsNumeral digits) (rest : List Char) :
    Text.trimStart (blanks ++ digits ++ rest) = digits ++ rest := by
  have hdrop : Text.trimStart (blanks ++ digits ++ rest) = Text.trimStart (digits ++ rest) := by
    rw [List.append_assoc]
    exact List.dropWhile_append_of_pos (List.all_eq_true.mp hblanks)
  rw [hdrop, trimStart_numeral hdigits]

theorem NumberText.scan {width : Nat} (t : NumberText width) {rest : List Char}
    (h : t.EndsBefore rest) : scanNumber width (t.chars ++ rest) = some (t.value, rest) := by
  have htrim : Text.trimStart (t.chars ++ rest) = t.digits ++ rest :=
    trimStart_blanks t.allBlank t.numeral rest
  simp [scanNumber, htrim, takeWhile_take_digits t.numeral.2 t.short h, t.numeral.1,
    Text.digitsValue_eq_placeValue, NumberText.value]

/-- A number is read as far as it goes, and nothing else is. -/
theorem scanNumber_eq_some {width n : Nat} {s rest : List Char} :
    scanNumber width s = some (n, rest) ↔
      ∃ t : NumberText width, s = t.chars ++ rest ∧ t.value = n ∧ t.EndsBefore rest := by
  constructor
  · intro h
    obtain ⟨rest', hs, hends⟩ := exists_takeWhile_take_digits width (Text.trimStart s)
    have hall : ∀ c ∈ ((Text.trimStart s).take width).takeWhile Char.isDigit, c.isDigit = true :=
      List.all_eq_true.mp List.all_takeWhile
    have hshort : (((Text.trimStart s).take width).takeWhile Char.isDigit).length ≤ width :=
      (List.takeWhile_prefix _).length_le.trans (List.length_take_le _ _)
    unfold scanNumber at h
    simp only at h
    -- The digits get a name, so that the text in front of them and behind them can be told.
    generalize ((Text.trimStart s).take width).takeWhile Char.isDigit = digits at *
    by_cases hnil : digits = []
    · simp [hnil] at h
    · rw [if_neg (by simpa using hnil), Option.some_inj, Prod.mk.injEq] at h
      obtain ⟨rfl, rfl⟩ := h
      have hrest : (Text.trimStart s).drop digits.length = rest' := by
        rw [hs, List.drop_left']
        rfl
      refine ⟨⟨s.takeWhile Text.isBlank, digits, List.all_takeWhile, ⟨hnil, hall⟩, hshort⟩, ?_,
        (Text.digitsValue_eq_placeValue digits).symm, ?_⟩
      · show s = s.takeWhile Text.isBlank ++ digits ++ _
        rw [hrest, List.append_assoc, ← hs]
        exact List.takeWhile_append_dropWhile.symm
      · rw [hrest]
        exact hends
  · rintro ⟨t, rfl, rfl, hends⟩
    exact t.scan hends

theorem NumberText.unique {width : Nat} {t t' : NumberText width} {rest rest' : List Char}
    (ht : t.EndsBefore rest) (ht' : t'.EndsBefore rest')
    (h : t.chars ++ rest = t'.chars ++ rest') : t = t' ∧ rest = rest' := by
  have hhead : ∀ (t : NumberText width) (rest : List Char),
      ∀ c ∈ (t.digits ++ rest).head?, Text.isBlank c = false := by
    intro t rest c hc
    obtain ⟨d, r, hd⟩ := List.exists_cons_of_ne_nil t.numeral.1
    rw [hd] at hc
    rw [← Option.some.inj hc]
    exact isBlank_of_isDigit (t.numeral.2 d (by simp [hd]))
  rw [chars, chars, List.append_assoc, List.append_assoc] at h
  obtain ⟨hblanks, h⟩ := Text.run_unique (List.all_eq_true.mp t.allBlank)
    (List.all_eq_true.mp t'.allBlank) (hhead t rest) (hhead t' rest') h
  have hdigits : t.digits = t'.digits := by
    rw [← takeWhile_take_digits t.numeral.2 t.short ht, h,
      takeWhile_take_digits t'.numeral.2 t'.short ht']
  refine ⟨NumberText.ext hblanks hdigits, ?_⟩
  rw [hdigits] at h
  exact List.append_cancel_left h

/-! ## Years -/

/-- What may stand in front of the digits of a year. -/
inductive Sign where
  | none
  | plus
  | minus
  deriving DecidableEq

def Sign.chars : Sign → List Char
  | none => []
  | plus => ['+']
  | minus => ['-']

/-- A year: blanks, a sign or none, and digits. Without a sign there are no more than four. -/
@[ext]
structure YearText where
  blanks : List Char
  sign : Sign
  digits : List Char
  allBlank : Text.allBlank blanks = true
  numeral : IsNumeral digits
  short : sign = .none → digits.length ≤ 4

namespace YearText

def chars (t : YearText) : List Char := t.blanks ++ (t.sign.chars ++ t.digits)

def value (t : YearText) : Int :=
  if t.sign = .minus then -(placeValue t.digits : Int) else placeValue t.digits

/-- The year has four digits, and neither a sign nor blanks. -/
def Full (t : YearText) : Prop := t.blanks = [] ∧ t.sign = .none ∧ t.digits.length = 4

/-- Behind the blanks stands a sign or a digit. -/
theorem trimStart_chars (t : YearText) (rest : List Char) :
    Text.trimStart (t.chars ++ rest) = t.sign.chars ++ (t.digits ++ rest) := by
  rw [chars, List.append_assoc, List.append_assoc]
  cases hsign : t.sign with
  | none =>
    show Text.trimStart (t.blanks ++ (t.digits ++ rest)) = t.digits ++ rest
    rw [← List.append_assoc]
    exact trimStart_blanks t.allBlank t.numeral rest
  | plus | minus =>
    rw [Text.trimStart, List.dropWhile_append_of_pos (List.all_eq_true.mp t.allBlank)]
    exact List.dropWhile_cons_of_neg (by decide)

end YearText

theorem scanDigits_eq_some {s rest : List Char} {n : Nat} :
    scanDigits s = some (n, rest) ↔
      ∃ digits, IsNumeral digits ∧ s = digits ++ rest ∧ placeValue digits = n ∧ Stops rest := by
  constructor
  · intro h
    unfold scanDigits at h
    simp only at h
    by_cases hnil : s.takeWhile Char.isDigit = []
    · simp [hnil] at h
    · rw [if_neg (by simpa using hnil), Option.some_inj, Prod.mk.injEq] at h
      obtain ⟨rfl, rfl⟩ := h
      refine ⟨_, ⟨hnil, List.all_eq_true.mp List.all_takeWhile⟩,
        List.takeWhile_append_dropWhile.symm, (Text.digitsValue_eq_placeValue _).symm, ?_⟩
      intro c hc
      have hnot := List.head?_dropWhile_not Char.isDigit s
      rw [Option.mem_def.mp hc] at hnot
      exact hnot
  · rintro ⟨digits, hdigits, rfl, rfl, hstops⟩
    have htake := Text.takeWhile_append_of_head hdigits.2 hstops
    have hdrop : (digits ++ rest).dropWhile Char.isDigit = rest := by
      have hboth := List.takeWhile_append_dropWhile (p := Char.isDigit) (l := digits ++ rest)
      rw [htake] at hboth
      exact List.append_cancel_left hboth
    simp [scanDigits, htake, hdrop, hdigits.1, Text.digitsValue_eq_placeValue]

/-- The digits behind a sign are a year with this sign. -/
theorem exists_signed (sign : Sign) {blanks s rest : List Char} {n : Nat} (hsign : sign ≠ .none)
    (hblanks : Text.allBlank blanks = true) (h : scanDigits s = some (n, rest)) :
    ∃ t : YearText, blanks ++ (sign.chars ++ s) = t.chars ++ rest ∧ t.sign = sign ∧
      placeValue t.digits = n := by
  obtain ⟨digits, hdigits, rfl, rfl, -⟩ := scanDigits_eq_some.mp h
  refine ⟨⟨blanks, sign, digits, hblanks, hdigits, fun hnone => absurd hnone hsign⟩, ?_, rfl, rfl⟩
  simp [YearText.chars]

/-- A year is read as far as it goes, if no digit is behind it. -/
theorem scanYear_eq_some {s rest : List Char} {y : Int} (hstops : Stops rest) :
    scanYear s = some (y, rest) ↔ ∃ t : YearText, s = t.chars ++ rest ∧ t.value = y := by
  constructor
  · intro h
    have hs : s = s.takeWhile Text.isBlank ++ Text.trimStart s :=
      List.takeWhile_append_dropWhile.symm
    have hblanks : Text.allBlank (s.takeWhile Text.isBlank) = true := List.all_takeWhile
    unfold scanYear at h
    split at h
    · next r heq =>
      obtain ⟨⟨n, rest'⟩, hscan, hresult⟩ := Option.map_eq_some_iff.mp h
      cases hresult
      obtain ⟨t, htext, hsign, rfl⟩ := exists_signed .minus nofun hblanks hscan
      rw [heq] at hs
      exact ⟨t, hs.trans htext, by simp [YearText.value, hsign]⟩
    · next r heq =>
      obtain ⟨⟨n, rest'⟩, hscan, hresult⟩ := Option.map_eq_some_iff.mp h
      cases hresult
      obtain ⟨t, htext, hsign, rfl⟩ := exists_signed .plus nofun hblanks hscan
      rw [heq] at hs
      exact ⟨t, hs.trans htext, by simp [YearText.value, hsign]⟩
    · obtain ⟨⟨n, rest'⟩, hscan, hresult⟩ := Option.map_eq_some_iff.mp h
      cases hresult
      obtain ⟨t, htext, rfl, -⟩ := scanNumber_eq_some.mp hscan
      have hboth : Text.allBlank (s.takeWhile Text.isBlank ++ t.blanks) = true := by
        rw [Text.allBlank, List.all_append, Bool.and_eq_true]
        exact ⟨hblanks, t.allBlank⟩
      refine ⟨⟨_, .none, t.digits, hboth, t.numeral, fun _ => t.short⟩, ?_, rfl⟩
      rw [htext] at hs
      simpa [YearText.chars, Sign.chars, NumberText.chars] using hs
  · rintro ⟨t, rfl, rfl⟩
    have hread : scanDigits (t.digits ++ rest) = some (placeValue t.digits, rest) :=
      scanDigits_eq_some.mpr ⟨t.digits, t.numeral, rfl, rfl, hstops⟩
    unfold scanYear
    rw [t.trimStart_chars]
    cases hsign : t.sign with
    | plus | minus => simp [Sign.chars, hread, YearText.value, hsign]
    | none =>
      have hnumber : scanNumber 4 (t.digits ++ rest) = some (placeValue t.digits, rest) :=
        scanNumber_eq_some.mpr
          ⟨⟨[], t.digits, rfl, t.numeral, t.short hsign⟩, rfl, rfl, Or.inr hstops⟩
      -- A digit comes first, so it is the branch without a sign that reads.
      have hnumeral := t.numeral
      obtain ⟨c, r, hd⟩ := List.exists_cons_of_ne_nil t.numeral.1
      rw [hd] at hnumeral
      rw [hd, List.cons_append] at hnumber
      simp only [Sign.chars, List.nil_append, hd, List.cons_append]
      split
      · next heq => exact absurd (List.cons.inj heq).1 hnumeral.head.2
      · next heq => exact absurd (List.cons.inj heq).1 hnumeral.head.1
      · simp [hnumber, YearText.value, hsign, hd]

theorem Sign.unique {a b : Sign} {digits digits' rest rest' : List Char} (h : IsNumeral digits)
    (h' : IsNumeral digits')
    (heq : a.chars ++ (digits ++ rest) = b.chars ++ (digits' ++ rest')) :
    a = b ∧ digits ++ rest = digits' ++ rest' := by
  obtain ⟨c, r, rfl⟩ := List.exists_cons_of_ne_nil h.1
  obtain ⟨d, r', rfl⟩ := List.exists_cons_of_ne_nil h'.1
  have hc := h.head
  have hd := h'.head
  cases a <;> cases b <;> grind [Sign.chars]

theorem YearText.unique {t t' : YearText} {rest rest' : List Char} (hrest : Stops rest)
    (hrest' : Stops rest') (h : t.chars ++ rest = t'.chars ++ rest') : t = t' ∧ rest = rest' := by
  have htrim := congrArg Text.trimStart h
  rw [t.trimStart_chars, t'.trimStart_chars] at htrim
  obtain ⟨hsign, hbehind⟩ := Sign.unique t.numeral t'.numeral htrim
  obtain ⟨hdigits, rfl⟩ := Text.run_unique t.numeral.2 t'.numeral.2 hrest hrest' hbehind
  have hchars : t.chars = t'.chars := List.append_cancel_right h
  rw [chars, chars, hsign, hdigits] at hchars
  exact ⟨YearText.ext (List.append_cancel_right hchars) hsign hdigits, rfl⟩

end DateTime
end RowFilter
