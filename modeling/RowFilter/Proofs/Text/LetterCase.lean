import Mathlib.Data.List.Basic
import RowFilter.Text.Digits
import RowFilter.Text.Lowercase

/-!
# Lower case is stable

Two facts make "up to letter case" mean what it should. Lower-casing twice is lower-casing once
(`lower_lower`), and a text keeps its lower case when capital ASCII letters are made small or small
ones capital (`lower_asciiLower`).

The first is a fact about the table: no lower case that one of its ranges gives is a capital of
another range. It is checked range against range, not character by character. Neither of the two
rules outside the table gets in the way, because what they give is in lower case too. The second is
a fact about the rule for a final sigma: that rule looks at the letters around the sigma, but only
at whether they are cased, and a letter is so in either case.
-/

set_option autoImplicit false

namespace RowFilter.Text

/-! ## The table -/

namespace CaseRange

/-- None of the lower cases that the range gives is a capital of the other range: they lie before it
or behind it, or they are the codes between its capitals. -/
def misses (r r' : CaseRange) : Bool :=
  (r.target + (r.last - r.first)).blt r'.first || r'.last.blt r.target ||
    ((r.first == r.last || r.step == 2) && r'.step == 2 && r.target % 2 != r'.first % 2)

/-- All the lower cases that the range gives are characters, and none is the one letter that is not
in the table. -/
def GivesCharacters (r : CaseRange) : Prop :=
  (r.target + (r.last - r.first) < 0xD800 ∨
    0xDFFF < r.target ∧ r.target + (r.last - r.first) < 0x110000) ∧
  (r.target + (r.last - r.first) < 'İ'.toNat ∨ 'İ'.toNat < r.target)

instance (r : CaseRange) : Decidable r.GivesCharacters := by unfold GivesCharacters; infer_instance

variable {r r' : CaseRange} {code low : Nat}

theorem lower?_eq_some : r.lower? code = some low ↔
    (r.first ≤ code ∧ code ≤ r.last ∧ (code - r.first) % r.step = 0) ∧
      r.target + (code - r.first) = low := by
  rw [lower?]
  split <;> simp_all

theorem lower?_eq_none_of_misses (h : r.misses r' = true) (hlow : r.lower? code = some low) :
    r'.lower? low = none := by
  obtain ⟨⟨hfirst, hlast, hstep⟩, rfl⟩ := lower?_eq_some.mp hlow
  rw [lower?, if_neg]
  rintro ⟨hfirst', hlast', hstep'⟩
  simp only [misses, Bool.or_eq_true, Bool.and_eq_true, Nat.blt_eq, beq_iff_eq, bne_iff_ne] at h
  rcases h with (hbefore | hbehind) | ⟨⟨hsteps, htwo⟩, hparity⟩
  · omega
  · omega
  · rw [htwo] at hstep'
    rcases hsteps with hone | htwo
    · omega
    · rw [htwo] at hstep
      omega

end CaseRange

theorem caseRanges_miss : (caseRanges.all fun r => caseRanges.all r.misses) = true := by
  decide +kernel

theorem caseRanges_giveCharacters : ∀ r ∈ caseRanges, r.GivesCharacters := by
  decide +kernel

/-! ## Characters in lower case -/

/-- The character is no capital, neither in the table nor outside it. -/
structure Lowered (c : Char) : Prop where
  not_capital : ∀ r ∈ caseRanges, r.lower? c.toNat = none
  ne_dotted : c ≠ 'İ'

instance (c : Char) : Decidable (Lowered c) :=
  decidable_of_iff ((∀ r ∈ caseRanges, r.lower? c.toNat = none) ∧ c ≠ 'İ')
    ⟨fun ⟨h, h'⟩ => ⟨h, h'⟩, fun ⟨h, h'⟩ => ⟨h, h'⟩⟩

theorem Lowered.findSome? {c : Char} (h : Lowered c) :
    (caseRanges.findSome? fun r => r.lower? c.toNat) = none :=
  List.findSome?_eq_none_iff.mpr h.not_capital

theorem Lowered.lowerChar_eq {c : Char} (h : Lowered c) : lowerChar c = c := by
  rw [lowerChar, h.findSome?]

theorem Lowered.ne_sigma {c : Char} (h : Lowered c) : c ≠ 'Σ' := by
  rintro rfl
  have hsigma : (caseRanges.findSome? fun r => r.lower? 'Σ'.toNat) = some 'σ'.toNat := by
    decide +kernel
  rw [h.findSome?] at hsigma
  cases hsigma

theorem toNat_ofNat {n : Nat} (h : n < 0xD800 ∨ 0xDFFF < n ∧ n < 0x110000) :
    (Char.ofNat n).toNat = n := by
  have hvalid : n.isValidChar := h
  rw [Char.ofNat, dif_pos hvalid]
  rfl

/-- What the table gives is in lower case. -/
theorem lowered_lowerChar {c : Char} (h : c ≠ 'İ') : Lowered (lowerChar c) := by
  rw [lowerChar]
  cases hcode : caseRanges.findSome? fun r => r.lower? c.toNat with
  | none => exact ⟨List.findSome?_eq_none_iff.mp hcode, h⟩
  | some low =>
    obtain ⟨r, hr, hlow⟩ := List.exists_of_findSome?_eq_some hcode
    obtain ⟨⟨hfirst, hlast, -⟩, hval⟩ := CaseRange.lower?_eq_some.mp hlow
    obtain ⟨hvalid, hdotted⟩ := caseRanges_giveCharacters r hr
    have hnat : (Char.ofNat low).toNat = low := toNat_ofNat (by omega)
    refine ⟨fun r' hr' => ?_, fun heq => ?_⟩
    · have hmisses := List.all_eq_true.mp (List.all_eq_true.mp caseRanges_miss r hr) r' hr'
      show r'.lower? (Char.ofNat low).toNat = none
      rw [hnat]
      exact CaseRange.lower?_eq_none_of_misses hmisses hlow
    · have hdot : low = 'İ'.toNat := hnat.symm.trans (congrArg Char.toNat heq)
      omega

/-! ## Texts in lower case -/

theorem lowered_of_mem_lowerAfter {before s : List Char} {c : Char} (h : c ∈ lowerAfter before s) :
    Lowered c := by
  induction s generalizing before with
  | nil => exact absurd h List.not_mem_nil
  | cons d r ih =>
    rw [lowerAfter] at h
    rcases List.mem_append.mp h with h | h
    · split at h
      · rw [List.mem_singleton.mp h, lowerSigma]
        split <;> decide +kernel
      · next hsigma =>
        split at h
        · rcases List.mem_pair.mp h with rfl | rfl <;> decide +kernel
        · next hdotted =>
          rw [List.mem_singleton.mp h]
          exact lowered_lowerChar hdotted
    · exact ih h

theorem lowerAfter_eq_self {s : List Char} (h : ∀ c ∈ s, Lowered c) (before : List Char) :
    lowerAfter before s = s := by
  induction s generalizing before with
  | nil => rfl
  | cons c r ih =>
    have hc := h c List.mem_cons_self
    rw [lowerAfter, if_neg hc.ne_sigma, if_neg hc.ne_dotted, hc.lowerChar_eq,
      ih fun d hd => h d (List.mem_cons_of_mem c hd)]
    rfl

/-- Lower-casing twice is lower-casing once. -/
theorem lower_lower (s : List Char) : lower (lower s) = lower s :=
  lowerAfter_eq_self (fun _ hc => lowered_of_mem_lowerAfter hc) []

/-! ## ASCII letters -/

namespace CodeRanges

variable {rs : CodeRanges} {lo hi : Nat}

/-- Each range holds all the codes from `lo` to `hi`, or none of them. -/
def Uniform (rs : CodeRanges) (lo hi : Nat) : Prop :=
  ∀ r ∈ rs, r.1 ≤ lo ∧ hi ≤ r.2 ∨ r.2 < lo ∨ hi < r.1

instance : Decidable (rs.Uniform lo hi) := by unfold Uniform; infer_instance

theorem has_iff {c : Char} :
    rs.has c = true ↔ ∃ r ∈ rs, r.1 ≤ c.toNat ∧ c.toNat ≤ r.2 := by
  simp [has, List.any_eq_true]

theorem Uniform.has_eq (h : rs.Uniform lo hi) {c d : Char} (hc : lo ≤ c.toNat ∧ c.toNat ≤ hi)
    (hd : lo ≤ d.toNat ∧ d.toNat ≤ hi) : rs.has c = rs.has d := by
  rw [Bool.eq_iff_iff, has_iff, has_iff]
  refine exists_congr fun r => and_congr_right fun hr => ?_
  have hrange := h r hr
  omega

end CodeRanges

/-- A character is an ASCII capital, and its small letter is 32 codes behind it, or it is left
alone. -/
theorem toLower_cases (c : Char) :
    c.toLower = c ∨
      (0x41 ≤ c.toNat ∧ c.toNat ≤ 0x5A) ∧ c.toLower.toNat = c.toNat + 0x20 := by
  by_cases h : c.val ≥ 'A'.val ∧ c.val ≤ 'Z'.val
  · have hA : 0x41 ≤ c.toNat := UInt32.le_iff_toNat_le.mp h.1
    have hZ : c.val.toNat ≤ 0x5A := UInt32.le_iff_toNat_le.mp h.2
    have hfits : c.val.toNat + 0x20 < 2 ^ 32 := by omega
    have hlower : c.toLower = ⟨c.val + 0x20, _⟩ := dif_pos h
    refine .inr ⟨⟨hA, hZ⟩, ?_⟩
    rw [hlower]
    show (c.val + 0x20).toNat = c.val.toNat + 0x20
    rw [UInt32.toNat_add]
    exact Nat.mod_eq_of_lt hfits
  · exact .inl (dif_neg h)

/-- A class that holds all ASCII letters or none, of either case, does not tell the cases apart. -/
theorem CodeRanges.has_toLower {rs : CodeRanges} (hcapitals : rs.Uniform 0x41 0x5A)
    (hsmall : rs.Uniform 0x61 0x7A) (hsame : rs.has 'A' = rs.has 'a') (c : Char) :
    rs.has c.toLower = rs.has c := by
  rcases toLower_cases c with heq | ⟨hc, hlow⟩
  · rw [heq]
  · have ha : rs.has c.toLower = rs.has 'a' := hsmall.has_eq (by omega) (by decide)
    have hA : rs.has c = rs.has 'A' := hcapitals.has_eq hc (by decide)
    rw [ha, hA, hsame]

theorem isCased_toLower (c : Char) : isCased c.toLower = isCased c :=
  CodeRanges.has_toLower (by decide +kernel) (by decide +kernel) (by decide +kernel) c

theorem isCaseIgnorable_toLower (c : Char) : isCaseIgnorable c.toLower = isCaseIgnorable c :=
  CodeRanges.has_toLower (by decide +kernel) (by decide +kernel) (by decide +kernel) c

theorem lowerChar_capital (n : Fin 26) :
    lowerChar (Char.ofNat (0x41 + n)) = (Char.ofNat (0x41 + n)).toLower := by
  decide +kernel +revert

/-- The small letter has the lower case of the capital, because it is that lower case. -/
theorem lowerChar_toLower (c : Char) : lowerChar c.toLower = lowerChar c := by
  rcases toLower_cases c with heq | ⟨⟨hA, hZ⟩, hlow⟩
  · rw [heq]
  · have hletter := lowerChar_capital ⟨c.toNat - 0x41, by omega⟩
    rw [show 0x41 + (c.toNat - 0x41) = c.toNat by omega, Char.ofNat_toNat] at hletter
    have hdotted : c ≠ 'İ' := by
      rintro rfl
      exact absurd hZ (by decide)
    rw [← hletter]
    exact (lowered_lowerChar hdotted).lowerChar_eq

/-- No character outside ASCII is the small letter of another one. -/
theorem toLower_eq_iff {c d : Char} (hd : 0x80 ≤ d.toNat) : c.toLower = d ↔ c = d := by
  rcases toLower_cases c with heq | ⟨⟨-, hZ⟩, hlow⟩
  · rw [heq]
  · constructor
    · rintro rfl
      omega
    · rintro rfl
      omega

theorem startsCased_asciiLower (s : List Char) : startsCased (asciiLower s) = startsCased s := by
  rw [startsCased, startsCased, asciiLower, List.dropWhile_map]
  have hignorable : isCaseIgnorable ∘ Char.toLower = isCaseIgnorable :=
    funext isCaseIgnorable_toLower
  rw [hignorable]
  cases s.dropWhile isCaseIgnorable with
  | nil => rfl
  | cons c r => exact isCased_toLower c

theorem lowerAfter_asciiLower (before s : List Char) :
    lowerAfter (asciiLower before) (asciiLower s) = lowerAfter before s := by
  induction s generalizing before with
  | nil => rfl
  | cons c r ih =>
    have hsigma : c.toLower = 'Σ' ↔ c = 'Σ' := toLower_eq_iff (by decide)
    have hdotted : c.toLower = 'İ' ↔ c = 'İ' := toLower_eq_iff (by decide)
    have hlater : lowerAfter (c.toLower :: asciiLower before) (asciiLower r) =
        lowerAfter (c :: before) r := ih (c :: before)
    have hlower : lowerSigma (asciiLower before) (asciiLower r) = lowerSigma before r := by
      rw [lowerSigma, lowerSigma, startsCased_asciiLower, startsCased_asciiLower]
    show lowerAfter (asciiLower before) (c.toLower :: asciiLower r) = _
    rw [lowerAfter, lowerAfter, hlater, hlower, lowerChar_toLower]
    simp only [hsigma, hdotted]

/-- The case of ASCII letters does not matter to the lower case of a text, to that of a sigma beside
them neither. -/
theorem lower_asciiLower (s : List Char) : lower (asciiLower s) = lower s :=
  lowerAfter_asciiLower [] s

/-! ## Names -/

theorem lowercase_lowercase (s : String) : lowercase (lowercase s) = lowercase s := by
  rw [lowercase, lowercase, String.toList_ofList, lower_lower]

theorem lowercase_eq_of_asciiLower_eq {s t : String}
    (h : asciiLower s.toList = asciiLower t.toList) : lowercase s = lowercase t := by
  rw [lowercase, lowercase, ← lower_asciiLower s.toList, h, lower_asciiLower]

end RowFilter.Text
