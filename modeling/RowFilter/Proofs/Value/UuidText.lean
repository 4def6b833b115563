import Mathlib.Algebra.Ring.Nat
import RowFilter.Proofs.Text.Ascii
import RowFilter.Value.Uuid

/-!
# Reading and writing UUIDs

The reader takes a text apart at its hyphens and the writer cuts the digits into groups and joins them,
and in between both go through the digits in pairs. Each of these steps is undone by one of the other
side, and what is left between the two is the case of the digits: a text is read as a UUID exactly if
in small letters it is the text that the UUID is written as (`read?_eq_some`). Whatever is to be known
about the texts of UUIDs is known from the written ones.
-/

set_option autoImplicit false

namespace RowFilter.Uuid

/-! ## Groups of digits -/

theorem cutGroups_flatten (gs : List (List Char)) : cutGroups (gs.map List.length) gs.flatten = gs := by
  induction gs with
  | nil => rfl
  | cons g gs ih => simp [cutGroups, ih]

theorem map_length_cutGroups {ns : List Nat} {s : List Char} (h : s.length = ns.sum) :
    (cutGroups ns s).map List.length = ns := by
  induction ns generalizing s with
  | nil => rfl
  | cons n ns ih =>
    rw [List.sum_cons] at h
    have hrest : (s.drop n).length = ns.sum := by simp [h]
    simp [cutGroups, ih hrest]
    omega

theorem flatten_cutGroups {ns : List Nat} {s : List Char} (h : s.length = ns.sum) :
    (cutGroups ns s).flatten = s := by
  induction ns generalizing s with
  | nil => simpa [cutGroups, eq_comm] using h
  | cons n ns ih =>
    rw [List.sum_cons] at h
    have hrest : (s.drop n).length = ns.sum := by simp [h]
    simp [cutGroups, ih hrest]

/-- Groups are cut out of what they make together. -/
theorem eq_cutGroups_iff {ns : List Nat} {s : List Char} (h : s.length = ns.sum)
    (gs : List (List Char)) :
    gs = cutGroups ns s ↔ gs.map List.length = ns ∧ gs.flatten = s := by
  constructor
  · intro hgs
    rw [hgs]
    exact ⟨map_length_cutGroups h, flatten_cutGroups h⟩
  · intro hgs
    rw [← hgs.1, ← hgs.2, cutGroups_flatten]

/-! ## Digits -/

theorem toLower_eq_hyphen_iff {c : Char} : c.toLower = '-' ↔ c = '-' := by
  constructor
  · intro h
    cases Text.toLower_cases c with
    | inl hsame => rw [← hsame, h]
    | inr hcapital =>
      have hcode := hcapital.2
      rw [h] at hcode
      have hhyphen : '-'.toNat = 45 := rfl
      omega
  · intro h
    rw [h]
    decide

/-- Small letters stand where the letters stood, and no hyphen is one. -/
theorem splitOn_asciiLower (s : List Char) :
    (Text.asciiLower s).splitOn '-' = (s.splitOn '-').map Text.asciiLower := by
  unfold List.splitOn Text.asciiLower
  induction s with
  | nil => rfl
  | cons c s ih =>
    have hc : (c.toLower == '-') = (c == '-') := by
      rw [Bool.eq_iff_iff]
      simp [toLower_eq_hyphen_iff]
    rw [List.map_cons, List.splitOnP_cons_eq_if_modifyHead, List.splitOnP_cons_eq_if_modifyHead, hc,
      ih]
    cases hsplit : s.splitOnP (· == '-') <;> by_cases hhyphen : c = '-' <;> simp [hhyphen]

theorem digitsOfByte_pair {high low : Nat} (hhigh : high < 16) (hlow : low < 16) :
    digitsOfByte (UInt8.ofNat (high * 16 + low)) = [Nat.digitChar high, Nat.digitChar low] := by
  have hsize : high * 16 + low < 256 := by omega
  have hbyte : (UInt8.ofNat (high * 16 + low)).toNat = high * 16 + low :=
    UInt8.toNat_ofNat_of_lt' hsize
  have hdiv : (high * 16 + low) / 16 = high := by omega
  have hmod : (high * 16 + low) % 16 = low := by omega
  rw [digitsOfByte, hbyte, hdiv, hmod]

theorem bytesOfDigits_pair {a b : Char} {r : List Char} {bytes : List UInt8} :
    bytesOfDigits (a :: b :: r) = some bytes ↔ ∃ high, Text.hexDigit? a = some high ∧
      ∃ low, Text.hexDigit? b = some low ∧ ∃ rest, bytesOfDigits r = some rest ∧
        UInt8.ofNat (high * 16 + low) :: rest = bytes := by
  simp only [bytesOfDigits, Option.bind_eq_bind, Option.bind_eq_some_iff, Option.pure_def,
    Option.some_inj]

/-- The digits are those of the bytes. -/
theorem bytesOfDigits_eq_some {s : List Char} {bytes : List UInt8} :
    bytesOfDigits s = some bytes ↔ Text.asciiLower s = bytes.flatMap digitsOfByte := by
  fun_induction bytesOfDigits s generalizing bytes with
  | case1 => cases bytes <;> simp [Text.asciiLower, digitsOfByte]
  | case2 a b r ih =>
    rw [← bytesOfDigits, bytesOfDigits_pair]
    constructor
    · intro h
      obtain ⟨high, ha, low, hb, rest, hrest, rfl⟩ := h
      obtain ⟨hhigh, hlower⟩ := Text.hexDigit?_eq_some.mp ha
      obtain ⟨hlow, hlower'⟩ := Text.hexDigit?_eq_some.mp hb
      rw [List.flatMap_cons, digitsOfByte_pair hhigh hlow, ← ih.mp hrest, ← hlower, ← hlower']
      rfl
    · intro h
      cases bytes with
      | nil => cases h
      | cons byte rest =>
        have hbyte := byte.toNat_lt
        obtain ⟨ha, hb, hrest⟩ : a.toLower = Nat.digitChar (byte.toNat / 16) ∧
            b.toLower = Nat.digitChar (byte.toNat % 16) ∧
            Text.asciiLower r = rest.flatMap digitsOfByte := by
          simpa [Text.asciiLower, digitsOfByte] using h
        refine ⟨byte.toNat / 16, Text.hexDigit?_eq_some.mpr ⟨by omega, ha⟩, byte.toNat % 16,
          Text.hexDigit?_eq_some.mpr ⟨by omega, hb⟩, rest, ih.mpr hrest, ?_⟩
        rw [Nat.div_add_mod', UInt8.ofNat_toNat]
  | case3 => cases bytes <;> simp [Text.asciiLower, digitsOfByte]

theorem length_digits (u : Uuid) : (u.bytes.flatMap digitsOfByte).length = groupLengths.sum := by
  simp [List.length_flatMap, digitsOfByte, u.size, groupLengths]

theorem hyphen_not_mem_digits (u : Uuid) : '-' ∉ u.bytes.flatMap digitsOfByte := by
  have hdigit : ∀ n < 16, '-' ≠ Nat.digitChar n := by decide
  simp only [List.mem_flatMap, digitsOfByte, List.mem_cons, List.not_mem_nil, or_false]
  rintro ⟨b, -, hhigh | hlow⟩
  · have hb := b.toNat_lt
    exact hdigit _ (by omega) hhigh
  · exact hdigit _ (by omega) hlow

theorem read?_eq_some_iff_groups {s : List Char} {u : Uuid} :
    read? s = some u ↔ (s.splitOn '-').map List.length = groupLengths ∧
      bytesOfDigits (s.splitOn '-').flatten = some u.bytes := by
  simp only [read?]
  by_cases hlengths : (s.splitOn '-').map List.length = groupLengths
  · rw [if_pos hlengths, Option.bind_eq_bind, Option.bind_eq_some_iff]
    constructor
    · intro h
      obtain ⟨bytes, hbytes, hsize⟩ := h
      split at hsize
      · cases hsize
        exact ⟨hlengths, hbytes⟩
      · cases hsize
    · intro h
      exact ⟨u.bytes, h.2, dif_pos u.size⟩
  · simp [hlengths]

theorem toList_toString (u : Uuid) : u.toString.toList = ['-'].intercalate
    (cutGroups groupLengths (u.bytes.flatMap digitsOfByte)) := String.toList_ofList

/-- What is read is what is written, up to the case of the digits. -/
theorem read?_eq_some {s : List Char} {u : Uuid} :
    read? s = some u ↔ Text.asciiLower s = u.toString.toList := by
  have hcut := eq_cutGroups_iff (length_digits u) ((s.splitOn '-').map Text.asciiLower)
  have hlengths : ((s.splitOn '-').map Text.asciiLower).map List.length =
      (s.splitOn '-').map List.length := by
    simp [Text.asciiLower]
  have hflatten : ((s.splitOn '-').map Text.asciiLower).flatten =
      Text.asciiLower (s.splitOn '-').flatten := List.map_flatten.symm
  rw [hlengths, hflatten] at hcut
  rw [read?_eq_some_iff_groups, bytesOfDigits_eq_some, ← hcut, ← splitOn_asciiLower, toList_toString]
  constructor
  · intro h
    rw [← h, List.intercalate_splitOn]
  · intro h
    rw [h, List.splitOn_intercalate]
    · intro g hg hhyphen
      have hmem := List.mem_flatten_of_mem hg hhyphen
      rw [flatten_cutGroups (length_digits u)] at hmem
      exact hyphen_not_mem_digits u hmem
    · simp [cutGroups, groupLengths]

end RowFilter.Uuid
