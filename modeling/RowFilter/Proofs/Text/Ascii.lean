import RowFilter.Proofs.Text.LetterCase
import RowFilter.Text.Digits
import RowFilter.Text.Bytes

/-!
# ASCII characters

The bytes of an ASCII text are the codes of its characters, and no other text has such bytes: the last
byte of any other character is none (`mem_utf8EncodeChar`). So a condition on all bytes of a text may be
read as one on its characters. Letter case keeps to ASCII from both sides, and a hexadecimal digit is
the character whose small letter is the digit that is written (`hexDigit?_eq_some`).
-/

set_option autoImplicit false

namespace RowFilter.Text

/-- What is checked of all codes of ASCII holds of the characters. -/
theorem of_ascii {P : Char → Prop} (h : ∀ k : Fin 0x80, P (Char.ofNat k)) {c : Char}
    (hc : c.toNat < 0x80) : P c := by
  have hk := h ⟨c.toNat, hc⟩
  rw [Char.ofNat_toNat] at hk
  exact hk

/-! ## Bytes -/

/-- The byte of an ASCII character. -/
def asciiByte (c : Char) : UInt8 := UInt8.ofNat c.toNat

theorem bytes_ascii {s : List Char} (h : ∀ c ∈ s, c.toNat < 0x80) :
    bytes s = s.map asciiByte := by
  induction s with
  | nil => rfl
  | cons c s ih =>
    have hc : c.toNat ≤ 127 := Nat.le_of_lt_succ (h c List.mem_cons_self)
    have hencode : String.utf8EncodeChar c = [asciiByte c] := if_pos hc
    rw [bytes, hencode, ih fun d hd => h d (List.mem_cons_of_mem c hd)]
    rfl

/-- A character that is not in ASCII has a last byte that is not. -/
theorem mem_utf8EncodeChar {c : Char} (h : 0x80 ≤ c.toNat) :
    UInt8.ofNat (c.toNat % 64 + 128) ∈ String.utf8EncodeChar c := by
  have hc : ¬ c.val.toNat ≤ 127 := Nat.not_le.mpr h
  simp only [String.utf8EncodeChar, if_neg hc]
  split
  · exact List.mem_cons_of_mem _ List.mem_cons_self
  · split
    · exact List.mem_cons_of_mem _ (List.mem_cons_of_mem _ List.mem_cons_self)
    · exact List.mem_cons_of_mem _ (List.mem_cons_of_mem _ (List.mem_cons_of_mem _ List.mem_cons_self))

theorem ascii_of_bytes {s : List Char} (h : ∀ b ∈ bytes s, b.toNat < 0x80) :
    ∀ c ∈ s, c.toNat < 0x80 := by
  induction s with
  | nil => simp
  | cons c s ih =>
    simp only [bytes, List.mem_append] at h
    intro d hd
    cases List.mem_cons.mp hd with
    | inl heq =>
      subst heq
      by_contra hlarge
      have hlast := h _ (Or.inl (mem_utf8EncodeChar (Nat.not_lt.mp hlarge)))
      rw [UInt8.toNat_ofNat_of_lt' (show d.toNat % 64 + 128 < 256 by omega)] at hlast
      omega
    | inr htail => exact ih (fun b hb => h b (Or.inr hb)) d htail

/-! ## Hexadecimal digits -/

theorem toNat_lt_of_toLower {c : Char} (h : c.toLower.toNat < 0x80) : c.toNat < 0x80 := by
  cases toLower_cases c with
  | inl hsame =>
    rw [← hsame]
    exact h
  | inr hcapital => omega

theorem digitChar_ascii : ∀ n < 16, (Nat.digitChar n).toNat < 0x80 := by decide

theorem hexDigit?_eq_some_of_ascii {c : Char} (hc : c.toNat < 0x80) {n : Nat} (hn : n < 16) :
    hexDigit? c = some n ↔ c.toLower = Nat.digitChar n := by
  have hall : ∀ (k : Fin 0x80) (n : Fin 16),
      hexDigit? (Char.ofNat k) = some n.val ↔ (Char.ofNat k).toLower = Nat.digitChar n := by
    decide +kernel
  exact of_ascii (P := fun c => ∀ n : Fin 16, hexDigit? c = some n.val ↔
    c.toLower = Nat.digitChar n) hall hc ⟨n, hn⟩

theorem hexDigit?_lt {c : Char} {n : Nat} (h : hexDigit? c = some n) :
    n < 16 ∧ c.toNat < 0x80 := by
  have hle (a b : Char) : a ≤ b ↔ a.toNat ≤ b.toNat := UInt32.le_iff_toNat_le
  simp only [hexDigit?, hle, Char.reduceToNat] at h
  split at h
  · cases h
    omega
  · split at h
    · cases h
      omega
    · split at h
      · cases h
        omega
      · cases h

/-- A character is a digit when its small letter is the digit that is written. -/
theorem hexDigit?_eq_some {c : Char} {n : Nat} :
    hexDigit? c = some n ↔ n < 16 ∧ c.toLower = Nat.digitChar n := by
  constructor
  · intro h
    obtain ⟨hn, hc⟩ := hexDigit?_lt h
    exact ⟨hn, (hexDigit?_eq_some_of_ascii hc hn).mp h⟩
  · intro h
    obtain ⟨hn, hlower⟩ := h
    have hc : c.toNat < 0x80 := toNat_lt_of_toLower (hlower ▸ digitChar_ascii n hn)
    exact (hexDigit?_eq_some_of_ascii hc hn).mpr hlower

end RowFilter.Text
