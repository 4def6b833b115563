import Mathlib.Data.List.Basic
import Mathlib.Data.List.TakeWhile
import RowFilter.Json.Pretty
import RowFilter.Json.Reader
import RowFilter.Proofs.Text.Numeral

/-!
# Strings and numbers in JSON text

A character is written in one of three ways: as a backslash and a letter, as a backslash and the
digits of its code, or as itself (`escapedChar_cases`). The reader undoes all three, and as no way
of writing a character holds a quote that is not behind a backslash, it reads a string up to the
quote that was written after it and no further. A number has no such mark at its end: where it ends
is told by the text after it, which may not go on with a character of a number (`EndsNumber`).
-/

set_option autoImplicit false

namespace RowFilter.Json

open Text (digitsValue digitsValue_eq_placeValue isNumeral_toDigits placeValue_toDigits)

/-! ## Strings -/

/-- The two digits that a control character is written with. -/
theorem hexUnit?_control (n : Fin 0x20) :
    hexUnit? '0' '0' (Nat.digitChar (n / 16)) (Nat.digitChar (n % 16)) = some n.val := by
  decide +kernel +revert

theorem escapedChar_cases (c : Char) :
    (∃ e, escapedChar c = ['\\', e] ∧ e ≠ 'u' ∧ escape? e = some c) ∨
    (c.toNat < 0x20 ∧ escapedChar c =
      ['\\', 'u', '0', '0', Nat.digitChar (c.toNat / 16), Nat.digitChar (c.toNat % 16)]) ∨
    (escapedChar c = [c] ∧ c ≠ '"' ∧ c ≠ '\\' ∧ 0x20 ≤ c.toNat) := by
  unfold escapedChar
  split
  case h_8 hquote hbackslash _ _ _ _ _ =>
    split
    · next h => exact Or.inr (Or.inl ⟨h, rfl⟩)
    · next h => exact Or.inr (Or.inr ⟨rfl, hquote, hbackslash, Nat.not_lt.mp h⟩)
  all_goals exact Or.inl ⟨_, rfl, by decide, rfl⟩

theorem stringCodes_escapedChar (c : Char) {r rest : List Char} {codes : List Nat}
    (h : stringCodes r = some (codes, rest)) :
    stringCodes (escapedChar c ++ r) = some (c.toNat :: codes, rest) := by
  rcases escapedChar_cases c with ⟨e, heq, hu, he⟩ | ⟨hc, heq⟩ | ⟨heq, hquote, hbackslash, hc⟩
  · -- The letter is none that digits follow, so it stands for one character.
    rw [heq]
    simp [stringCodes, h, he, hu]
  · have hunit := hexUnit?_control ⟨c.toNat, hc⟩
    rw [heq]
    simp [stringCodes, h, hunit]
  · have hcontrol : ¬ c.toNat < 0x20 := Nat.not_lt.mpr hc
    rw [heq, List.singleton_append]
    unfold stringCodes
    simp [h, hquote, hbackslash, hcontrol]

theorem stringCodes_escaped (s rest : List Char) :
    stringCodes (s.flatMap escapedChar ++ '"' :: rest) = some (s.map Char.toNat, rest) := by
  induction s with
  | nil =>
    rw [List.flatMap_nil, List.nil_append]
    unfold stringCodes
    rfl
  | cons c s ih =>
    rw [List.flatMap_cons, List.append_assoc]
    exact stringCodes_escapedChar c ih

/-- No character is a surrogate, so its code is never one half of a pair. -/
theorem charsOfCodes_map (s : List Char) : charsOfCodes (s.map Char.toNat) = some s := by
  induction s with
  | nil => rfl
  | cons c s ih =>
    have hc : c.toNat < 0xD800 ∨ 0xDFFF < c.toNat := c.valid.imp_right And.left
    have hhigh : isHighSurrogate c.toNat = false := by
      simp [isHighSurrogate]
      omega
    have hlow : isLowSurrogate c.toNat = false := by
      simp [isLowSurrogate]
      omega
    rw [List.map_cons]
    unfold charsOfCodes
    simp [hhigh, hlow, ih]

/-- **A string is read as it was written**, whatever its characters are. -/
theorem readString_escaped (s : String) (rest : List Char) :
    readString (s.toList.flatMap escapedChar ++ '"' :: rest) = some (s, rest) := by
  simp [readString, stringCodes_escaped, charsOfCodes_map]

/-! ## Numbers -/

theorem head?_toDigits {n : Nat} (h : 0 < n) : (Nat.toDigits 10 n).head? ≠ some '0' := by
  induction n using Nat.strong_induction_on with
  | _ n ih =>
    rcases Nat.lt_or_ge n 10 with hn | hn
    · rw [Nat.toDigits_of_lt_base hn]
      have hdigit : ∀ m < 10, 0 < m → Nat.digitChar m ≠ '0' := by decide
      intro hhead
      exact hdigit n hn h (Option.some_inj.mp hhead)
    · rw [Nat.toDigits_of_base_le (by decide) hn,
        List.head?_append_of_ne_nil _ Nat.toDigits_ne_nil]
      exact ih (n / 10) (by omega) (by omega)

/-- What the reader asks of the digits of an integer: that nothing else is among them, and that no
zero stands in front. -/
theorem magnitude_toDigits (n : Nat) :
    (Nat.toDigits 10 n).takeWhile Char.isDigit = Nat.toDigits 10 n ∧
    (Nat.toDigits 10 n).dropWhile Char.isDigit = [] ∧
    ((Nat.toDigits 10 n).head? = some '0' → (Nat.toDigits 10 n).length = 1) ∧
    digitsValue (Nat.toDigits 10 n) = n := by
  have hdigits := (isNumeral_toDigits n).2
  refine ⟨List.takeWhile_eq_self_iff.mpr hdigits, List.dropWhile_eq_nil_iff.mpr hdigits, ?_, ?_⟩
  · intro hhead
    rcases Nat.eq_zero_or_pos n with rfl | hn
    · rfl
    · exact absurd hhead (head?_toDigits hn)
  · rw [digitsValue_eq_placeValue, placeValue_toDigits]

theorem readNumber_toDigits (n : Nat) : readNumber (Nat.toDigits 10 n) = some (int n) := by
  have hnumeral := isNumeral_toDigits n
  obtain ⟨htake, hdrop, hzero, hvalue⟩ := magnitude_toDigits n
  unfold readNumber
  split
  next negative magnitude heq =>
    split at heq
    -- A numeral has no sign, so all of it is the magnitude.
    · next r hminus => exact absurd rfl (hminus ▸ hnumeral).head.2
    · cases heq
      simp [htake, hdrop, hnumeral.1, hvalue]
      exact hzero

theorem readNumber_intText (n : Int) : readNumber (intText n) = some (int n) := by
  unfold intText
  split
  · next hneg =>
    obtain ⟨htake, hdrop, hzero, hvalue⟩ := magnitude_toDigits n.natAbs
    simp [readNumber, htake, hdrop, hvalue, hneg.ne, abs_of_neg hneg]
    exact hzero
  · next hneg => rw [readNumber_toDigits, Int.natAbs_of_nonneg (Int.not_lt.mp hneg)]

/-- The text does not go on with a character of a number. -/
def EndsNumber (rest : List Char) : Prop := rest.takeWhile isNumeric = []

theorem ne_of_isNumeric {c d : Char} (hc : isNumeric c = true) (hd : isNumeric d = false) :
    c ≠ d := by
  rintro rfl
  rw [hc] at hd
  cases hd

theorem isNumeric_of_mem_intText {n : Int} {c : Char} (h : c ∈ intText n) :
    isNumeric c = true := by
  have hdigit : ∀ d ∈ Nat.toDigits 10 n.natAbs, isNumeric d = true := by
    intro d hd
    simp [isNumeric, (isNumeral_toDigits n.natAbs).2 d hd]
  unfold intText at h
  split at h
  · rcases List.mem_cons.mp h with rfl | hc
    · rfl
    · exact hdigit c hc
  · exact hdigit c h

theorem intText_eq_cons (n : Int) : ∃ c r, intText n = c :: r ∧ isNumeric c = true := by
  have hne : intText n ≠ [] := by
    unfold intText
    split
    · exact List.cons_ne_nil _ _
    · exact Nat.toDigits_ne_nil
  obtain ⟨c, r, heq⟩ := List.exists_cons_of_ne_nil hne
  exact ⟨c, r, heq, isNumeric_of_mem_intText (heq ▸ List.mem_cons_self)⟩

/-- What starts as a number does is no literal name. -/
theorem readAtom_of_isNumeric {c : Char} {r : List Char} (hc : isNumeric c = true) :
    readAtom (c :: r) = (readNumber ((c :: r).takeWhile isNumeric)).map fun x =>
      (x, (c :: r).dropWhile isNumeric) := by
  have hn : c ≠ 'n' := ne_of_isNumeric hc rfl
  have ht : c ≠ 't' := ne_of_isNumeric hc rfl
  have hf : c ≠ 'f' := ne_of_isNumeric hc rfl
  simp [readAtom, hn, ht, hf]

theorem readAtom_intText (n : Int) {rest : List Char} (h : EndsNumber rest) :
    readAtom (intText n ++ rest) = some (int n, rest) := by
  have hnumeric : ∀ c ∈ intText n, isNumeric c = true := fun c hc => isNumeric_of_mem_intText hc
  have htake : (intText n ++ rest).takeWhile isNumeric = intText n := by
    rw [List.takeWhile_append_of_pos hnumeric, h, List.append_nil]
  have hdrop : (intText n ++ rest).dropWhile isNumeric = rest := by
    have hsplit := List.takeWhile_append_dropWhile (p := isNumeric) (l := intText n ++ rest)
    rw [htake] at hsplit
    exact List.append_cancel_left hsplit
  obtain ⟨c, r, heq, hc⟩ := intText_eq_cons n
  rw [heq, List.cons_append] at htake hdrop ⊢
  rw [readAtom_of_isNumeric hc, htake, hdrop, ← heq, readNumber_intText]
  rfl

end RowFilter.Json
