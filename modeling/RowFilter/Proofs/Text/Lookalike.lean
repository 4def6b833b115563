import RowFilter.Proofs.Text.Ascii

/-!
# Look-alikes in lower case

Within ASCII lower-casing is what everyone expects, but a text outside ASCII may have a lower case
inside it: the Kelvin sign has the small letter `k`. It is the only character of this kind
(`ascii_lower_iff`). A capital `I` with a dot above becomes a small `i`, but with a combining dot
behind it, and either small sigma is as far from ASCII as the capital.

So whoever compares a lower case with a word that has no `k` may forget about Unicode
(`lower_eq_ascii_iff`).
-/

set_option autoImplicit false

namespace RowFilter.Text

/-- A letter outside ASCII with a lower case inside it. -/
def kelvinSign : Char := '\u212A'

/-! ## One character -/

/-- The lower cases of the range are not in ASCII, unless its capitals are, or it holds the Kelvin
sign and nothing else. -/
def CaseRange.KeepsOut (r : CaseRange) : Prop :=
  r.last < 0x80 ∨ 0x80 ≤ r.target ∨ r.first = kelvinSign.toNat ∧ r.last = kelvinSign.toNat

instance (r : CaseRange) : Decidable r.KeepsOut := by unfold CaseRange.KeepsOut; infer_instance

theorem caseRanges_keepOut : ∀ r ∈ caseRanges, r.KeepsOut := by
  decide +kernel

theorem lowerChar_ascii {c : Char} (hc : c.toNat < 0x80) : lowerChar c = c.toLower :=
  of_ascii (P := fun c => lowerChar c = c.toLower) (by decide +kernel) hc

theorem eq_kelvinSign_of_lowerChar {c : Char} (hc : 0x80 ≤ c.toNat)
    (hlower : (lowerChar c).toNat < 0x80) : c = kelvinSign := by
  rw [lowerChar] at hlower
  cases hcode : caseRanges.findSome? fun r => r.lower? c.toNat with
  | none =>
    rw [hcode] at hlower
    exact absurd hlower (Nat.not_lt.mpr hc)
  | some low =>
    obtain ⟨r, hr, hlow⟩ := List.exists_of_findSome?_eq_some hcode
    obtain ⟨⟨hfirst, hlast, -⟩, hval⟩ := CaseRange.lower?_eq_some.mp hlow
    have hnat : (Char.ofNat low).toNat = low := by
      have hvalid := (caseRanges_giveCharacters r hr).1
      exact toNat_ofNat (by omega)
    rw [hcode] at hlower
    have hsmall : low < 0x80 := hnat ▸ hlower
    apply Char.toNat_inj.mp
    rcases caseRanges_keepOut r hr with hcapitals | hout | hkelvin
    · omega
    · omega
    · omega

/-! ## Texts -/

/-- A text with a lower case in ASCII is lowered character by character. -/
theorem lowerAfter_of_ascii {before s : List Char}
    (h : ∀ d ∈ lowerAfter before s, d.toNat < 0x80) :
    lowerAfter before s = s.map lowerChar ∧ ∀ c ∈ s, c.toNat < 0x80 ∨ c = kelvinSign := by
  induction s generalizing before with
  | nil => exact ⟨rfl, by simp⟩
  | cons c r ih =>
    rw [lowerAfter] at h ⊢
    simp only [List.mem_append] at h
    obtain ⟨hmap, hrest⟩ := ih fun d hd => h d (Or.inr hd)
    by_cases hsigma : c = 'Σ'
    · -- Neither of the two small sigmas is in ASCII.
      rw [if_pos hsigma] at h
      have hsmall := h _ (Or.inl List.mem_cons_self)
      rw [lowerSigma] at hsmall
      split at hsmall <;> exact absurd hsmall (by decide)
    · rw [if_neg hsigma] at h ⊢
      by_cases hdotted : c = 'İ'
      · -- The dot that is left over is not in ASCII.
        rw [if_pos hdotted] at h
        exact absurd (h '\u0307' (by simp)) (by decide)
      · rw [if_neg hdotted] at h ⊢
        have hc := h (lowerChar c) (by simp)
        refine ⟨by rw [hmap]; rfl, ?_⟩
        intro d hd
        rcases List.mem_cons.mp hd with rfl | hd
        · rcases Nat.lt_or_ge d.toNat 0x80 with hlt | hge
          · exact Or.inl hlt
          · exact Or.inr (eq_kelvinSign_of_lowerChar hge hc)
        · exact hrest d hd

theorem lowerAfter_ascii {before s : List Char}
    (h : ∀ c ∈ s, c.toNat < 0x80 ∨ c = kelvinSign) :
    lowerAfter before s = s.map lowerChar := by
  have hplain : ∀ c : Char, c.toNat < 0x80 ∨ c = kelvinSign → c ≠ 'Σ' ∧ c ≠ 'İ' := by
    rintro c (hc | rfl)
    · constructor <;> rintro rfl <;> exact absurd hc (by decide)
    · decide
  induction s generalizing before with
  | nil => rfl
  | cons c r ih =>
    obtain ⟨hsigma, hdotted⟩ := hplain c (h c List.mem_cons_self)
    rw [lowerAfter, if_neg hsigma, if_neg hdotted, ih fun d hd => h d (List.mem_cons_of_mem c hd)]
    rfl

/-- The Kelvin sign is the one character outside ASCII that a lower case in ASCII can hide. -/
theorem ascii_lower_iff {s : List Char} :
    (∀ d ∈ lower s, d.toNat < 0x80) ↔ ∀ c ∈ s, c.toNat < 0x80 ∨ c = kelvinSign := by
  constructor
  · intro h
    exact (lowerAfter_of_ascii h).2
  · intro h d hd
    rw [lower, lowerAfter_ascii h, List.mem_map] at hd
    obtain ⟨c, hc, rfl⟩ := hd
    rcases h c hc with hascii | rfl
    · rw [lowerChar_ascii hascii]
      exact of_ascii (P := fun c => c.toLower.toNat < 0x80) (by decide +kernel) hascii
    · decide +kernel

theorem lower_of_ascii {s : List Char} (h : ∀ c ∈ s, c.toNat < 0x80) :
    lower s = asciiLower s := by
  rw [lower, lowerAfter_ascii fun c hc => Or.inl (h c hc), asciiLower]
  exact List.map_congr_left fun c hc => lowerChar_ascii (h c hc)

/-- A word in ASCII without a `k` is the lower case of texts in ASCII only. -/
theorem lower_eq_ascii_iff {s w : List Char} (hw : ∀ d ∈ w, d.toNat < 0x80) (hk : 'k' ∉ w) :
    lower s = w ↔ (∀ c ∈ s, c.toNat < 0x80) ∧ asciiLower s = w := by
  constructor
  · rintro rfl
    have hkelvin := ascii_lower_iff.mp hw
    have hascii : ∀ c ∈ s, c.toNat < 0x80 := by
      intro c hc
      rcases hkelvin c hc with hlt | rfl
      · exact hlt
      · have hmem : lowerChar kelvinSign ∈ lower s := by
          rw [lower, lowerAfter_ascii hkelvin]
          exact List.mem_map_of_mem hc
        have hsmall : lowerChar kelvinSign = 'k' := by decide +kernel
        exact absurd (hsmall ▸ hmem) hk
    exact ⟨hascii, (lower_of_ascii hascii).symm⟩
  · rintro ⟨hascii, rfl⟩
    exact lower_of_ascii hascii

end RowFilter.Text
