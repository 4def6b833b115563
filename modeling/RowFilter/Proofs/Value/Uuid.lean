import RowFilter.Proofs.Value.Order
import RowFilter.Proofs.Value.UuidText

/-!
# UUID literals

The text of a UUID is looked at place by place. Four of its places have a hyphen, whatever the UUID is,
and along the other ones stand the halves of its bytes (`map_digitPlaces`). That says which texts are
read: each place can be looked at for itself (`asciiLower_eq_toString_iff`), and the pairs of digits
put the bytes together again (`halves_pairs`). It says how the texts are ordered too. Hyphens meet
hyphens, so they decide nothing, and the digits as they are written, the small letters behind the
decimal ones, have the order of the halves (`compare_digitByte`), which is the order of the bytes.
-/

set_option autoImplicit false

namespace RowFilter

namespace Uuid

/-! ## The form of the text -/

/-- The places of the hyphens. -/
def hyphenPlaces : List Nat := [8, 13, 18, 23]

/-- The place of the first digit of each byte. The second one is right behind it. -/
def pairPlaces : List Nat := [0, 2, 4, 6, 9, 11, 14, 16, 19, 21, 24, 26, 28, 30, 32, 34]

/-- The number of a hexadecimal digit, of either case, in ASCII. -/
def hexValue? (b : UInt8) : Option Nat :=
  if 0x30 ≤ b.toNat ∧ b.toNat ≤ 0x39 then some (b.toNat - 0x30)
  else if 0x41 ≤ b.toNat ∧ b.toNat ≤ 0x46 then some (b.toNat - 0x41 + 10)
  else if 0x61 ≤ b.toNat ∧ b.toNat ≤ 0x66 then some (b.toNat - 0x61 + 10)
  else none

/-- The number of the digit at a place, if there is a digit. -/
def digitAt? (text : List UInt8) (i : Nat) : Option Nat := text[i]?.bind hexValue?

/-- There are hyphens at their places and digits at all others. -/
structure Hyphenated (text : List UInt8) : Prop where
  size : text.length = 36
  hyphens : ∀ i ∈ hyphenPlaces, text[i]? = some 0x2D
  digits : ∀ i < 36, i ∉ hyphenPlaces → ∃ n, digitAt? text i = some n

/-- The number of the digit at a place, where there is one. -/
def digitAt (text : List UInt8) (i : Nat) : Nat := (digitAt? text i).getD 0

/-- The byte of the digits at a place and behind it. -/
def pairAt (text : List UInt8) (i : Nat) : UInt8 :=
  UInt8.ofNat (16 * digitAt text i + digitAt text (i + 1))

/-! ## Places -/

/-- The halves of the bytes, in the order in which they are written. -/
def halves (bytes : List UInt8) : List Nat := bytes.flatMap fun b => [b.toNat / 16, b.toNat % 16]

/-- The number of digits in front of a place. -/
def digitsBefore (i : Nat) : Nat := i - (hyphenPlaces.filter (· < i)).length

/-- The character at a place of the text. -/
def charAt (u : Uuid) (i : Nat) : Char :=
  if i ∈ hyphenPlaces then '-' else Nat.digitChar ((halves u.bytes).getD (digitsBefore i) 0)

theorem map_getD_range {α : Type} {l : List α} {n : Nat} (h : l.length = n) (d : α) :
    (List.range n).map (fun i => l.getD i d) = l := by
  apply List.ext_getElem
  · simp [h]
  · intro i hi hl
    simp [hl]

/-- The groups cover all places, with a hyphen between each two. -/
theorem intercalate_cutGroups_range (f : Nat → Char) :
    ['-'].intercalate (cutGroups groupLengths ((List.range 32).map f)) =
      (List.range 36).map fun i => if i ∈ hyphenPlaces then '-' else f (digitsBefore i) := by
  rfl

theorem flatMap_digitsOfByte (bytes : List UInt8) :
    bytes.flatMap digitsOfByte = (halves bytes).map Nat.digitChar := by
  rw [halves, List.map_flatMap]
  rfl

theorem length_halves (u : Uuid) : (halves u.bytes).length = 32 := by
  simp [halves, List.length_flatMap, u.size]

theorem toList_toString_eq_map (u : Uuid) : u.toString.toList = (List.range 36).map u.charAt := by
  rw [toList_toString, flatMap_digitsOfByte, ← map_getD_range (length_halves u) 0, List.map_map,
    intercalate_cutGroups_range]
  rfl

/-! ## The order of halves -/

theorem compare_halves_nat (m n : Nat) :
    (compare (m / 16) (n / 16)).then (compare (m % 16) (n % 16)) = compare m n := by
  by_cases hlt : m / 16 < n / 16
  · have h : m < n := by omega
    rw [Nat.compare_eq_lt.mpr hlt, Nat.compare_eq_lt.mpr h, Ordering.lt_then]
  · by_cases hgt : n / 16 < m / 16
    · have h : n < m := by omega
      rw [Nat.compare_eq_gt.mpr hgt, Nat.compare_eq_gt.mpr h, Ordering.gt_then]
    · have heq : m / 16 = n / 16 := by omega
      have hlow : m % 16 < n % 16 ↔ m < n := by omega
      have hhigh : n % 16 < m % 16 ↔ n < m := by omega
      rw [Nat.compare_eq_eq.mpr heq, Ordering.eq_then]
      simp only [Nat.compare_eq_ite_lt, hlow, hhigh]

/-- Halves of bytes tell what the bytes tell. -/
theorem compare_halves (xs ys : List UInt8) : compare (halves xs) (halves ys) = compare xs ys := by
  induction xs generalizing ys with
  | nil => cases ys <;> rfl
  | cons x xs ih =>
    cases ys with
    | nil => rfl
    | cons y ys =>
      have hcons (b : UInt8) (bs : List UInt8) :
          halves (b :: bs) = b.toNat / 16 :: b.toNat % 16 :: halves bs := rfl
      rw [hcons, hcons, List.compare_cons_cons, List.compare_cons_cons, List.compare_cons_cons, ih,
        ← Ordering.then_assoc, compare_halves_nat, compare_toNat]

/-! ## The order of texts -/

theorem lt_of_mem_halves {bytes : List UInt8} {n : Nat} (h : n ∈ halves bytes) : n < 16 := by
  obtain ⟨b, -, hn⟩ := List.mem_flatMap.mp h
  have hb := b.toNat_lt
  simp only [List.mem_cons, List.not_mem_nil, or_false] at hn
  omega

theorem getD_halves_lt (bytes : List UInt8) (k : Nat) : (halves bytes).getD k 0 < 16 := by
  rw [List.getD_eq_getElem?_getD]
  cases hk : (halves bytes)[k]? with
  | none => decide
  | some n => exact lt_of_mem_halves (List.mem_of_getElem? hk)

theorem toString_ascii (u : Uuid) : ∀ c ∈ u.toString.toList, c.toNat < 0x80 := by
  intro c hc
  rw [toList_toString_eq_map] at hc
  obtain ⟨i, -, rfl⟩ := List.mem_map.mp hc
  unfold charAt
  split
  · decide
  · exact Text.digitChar_ascii _ (getD_halves_lt u.bytes _)

/-- The byte at a place of the text. -/
def byteAt (u : Uuid) (i : Nat) : UInt8 := Text.asciiByte (u.charAt i)

/-- The byte that a half is written as. -/
def digitByte (n : Nat) : UInt8 := Text.asciiByte (Nat.digitChar n)

theorem bytes_toString (u : Uuid) : Text.bytes u.toString.toList = (List.range 36).map u.byteAt := by
  rw [Text.bytes_ascii u.toString_ascii, toList_toString_eq_map, List.map_map]
  rfl

/-- The places of digits. -/
def digitPlaces : List Nat := (List.range 36).filter fun i => i ∉ hyphenPlaces

theorem mem_digitPlaces {i : Nat} : i ∈ digitPlaces ↔ i < 36 ∧ i ∉ hyphenPlaces := by
  simp [digitPlaces]

/-- Along the places of digits stand the halves. -/
theorem map_digitPlaces (u : Uuid) :
    digitPlaces.map (fun i => (halves u.bytes).getD (digitsBefore i) 0) = halves u.bytes := by
  have hindices : digitPlaces.map digitsBefore = List.range 32 := by decide
  have hmap : digitPlaces.map (fun i => (halves u.bytes).getD (digitsBefore i) 0) =
      (digitPlaces.map digitsBefore).map fun k => (halves u.bytes).getD k 0 := by
    rw [List.map_map]
    rfl
  rw [hmap, hindices, map_getD_range u.length_halves]

theorem map_byteAt (u : Uuid) : digitPlaces.map u.byteAt = (halves u.bytes).map digitByte := by
  conv_rhs => rw [← map_digitPlaces, List.map_map]
  exact List.map_congr_left fun i hi => congrArg Text.asciiByte (if_neg (mem_digitPlaces.mp hi).2)

theorem compare_digitByte : ∀ m < 16, ∀ n < 16,
    compare (digitByte m) (digitByte n) = compare m n := by
  decide +kernel

/-- The texts are ordered as the UUIDs are. -/
theorem compare_bytes_toString (u v : Uuid) :
    compare (Text.bytes u.toString.toList) (Text.bytes v.toString.toList) =
      compare u.bytes v.bytes := by
  have hhyphens : ∀ i ∈ List.range 36, decide (i ∉ hyphenPlaces) = false →
      compare (u.byteAt i) (v.byteAt i) = .eq := by
    intro i _ hi
    have hmem : i ∈ hyphenPlaces := by simpa using hi
    rw [byteAt, byteAt, charAt, charAt, if_pos hmem, if_pos hmem, Std.ReflOrd.compare_self]
  calc compare (Text.bytes u.toString.toList) (Text.bytes v.toString.toList)
      = compare ((List.range 36).map u.byteAt) ((List.range 36).map v.byteAt) := by
        rw [bytes_toString, bytes_toString]
    _ = compare (digitPlaces.map u.byteAt) (digitPlaces.map v.byteAt) := compare_map_filter hhyphens
    _ = compare ((halves u.bytes).map digitByte) ((halves v.bytes).map digitByte) := by
        rw [map_byteAt, map_byteAt]
    _ = compare (halves u.bytes) (halves v.bytes) := compare_map fun m hm n hn =>
        compare_digitByte m (lt_of_mem_halves hm) n (lt_of_mem_halves hn)
    _ = compare u.bytes v.bytes := compare_halves u.bytes v.bytes

/-! ## What is accepted -/

theorem halves_injective : Function.Injective halves := by
  intro xs ys h
  have hcompare := compare_halves xs ys
  rw [h, Std.ReflOrd.compare_self] at hcompare
  exact Std.LawfulEqOrd.eq_of_compare hcompare.symm

theorem hexValue?_asciiByte {c : Char} (hc : c.toNat < 0x80) :
    hexValue? (Text.asciiByte c) = Text.hexDigit? c :=
  Text.of_ascii (P := fun c => hexValue? (Text.asciiByte c) = Text.hexDigit? c)
    (by decide +kernel) hc

theorem asciiByte_eq_hyphen_iff {c : Char} (hc : c.toNat < 0x80) :
    Text.asciiByte c = 0x2D ↔ c = '-' :=
  Text.of_ascii (P := fun c => Text.asciiByte c = 0x2D ↔ c = '-') (by decide +kernel) hc

variable {u : Uuid} {s : List Char} {text : List UInt8}

theorem hexValue?_lt {b : UInt8} {n : Nat} (h : hexValue? b = some n) :
    n < 16 ∧ b.toNat < 0x80 := by
  unfold hexValue? at h
  split at h
  · cases h
    omega
  · split at h
    · cases h
      omega
    · split at h
      · cases h
        omega
      · cases h

theorem digitAt_lt (text : List UInt8) (i : Nat) : digitAt text i < 16 := by
  unfold digitAt
  cases hi : digitAt? text i with
  | none => decide
  | some n =>
    obtain ⟨b, -, hb⟩ := Option.bind_eq_some_iff.mp hi
    exact (hexValue?_lt hb).1

theorem halves_pairs (text : List UInt8) :
    halves (pairPlaces.map (pairAt text)) = digitPlaces.map (digitAt text) := by
  have hplaces : digitPlaces = pairPlaces.flatMap fun i => [i, i + 1] := by decide
  have hpair (i : Nat) : [(pairAt text i).toNat / 16, (pairAt text i).toNat % 16] =
      [digitAt text i, digitAt text (i + 1)] := by
    have hhigh := digitAt_lt text i
    have hlow := digitAt_lt text (i + 1)
    have hsize : 16 * digitAt text i + digitAt text (i + 1) < 256 := by omega
    rw [pairAt, UInt8.toNat_ofNat_of_lt' hsize]
    congr 1
    · omega
    · congr 1
      omega
  rw [hplaces, List.map_flatMap, halves, List.flatMap_map]
  exact List.flatMap_congr fun i _ => hpair i

/-- The bytes are the pairs when each digit is the half that belongs at its place. -/
theorem bytes_eq_pairs_iff : u.bytes = pairPlaces.map (pairAt text) ↔
    ∀ i ∈ digitPlaces, (halves u.bytes).getD (digitsBefore i) 0 = digitAt text i := by
  rw [← halves_injective.eq_iff, halves_pairs, ← List.map_inj_left, map_digitPlaces]

/-- The text has at a place what the UUID has there. -/
def Stands (u : Uuid) (text : List UInt8) (i : Nat) : Prop :=
  if i ∈ hyphenPlaces then text[i]? = some 0x2D
  else digitAt? text i = some ((halves u.bytes).getD (digitsBefore i) 0)

theorem stands_iff {c : Char} (hc : c.toNat < 0x80) {i : Nat}
    (hget : text[i]? = some (Text.asciiByte c)) : Stands u text i ↔ c.toLower = u.charAt i := by
  unfold Stands charAt
  split
  · rw [hget, Option.some_inj, asciiByte_eq_hyphen_iff hc, toLower_eq_hyphen_iff]
  · rw [digitAt?, hget, Option.bind_some, hexValue?_asciiByte hc, Text.hexDigit?_eq_some,
      and_iff_right (getD_halves_lt u.bytes _)]

/-- Each place can be looked at for itself. -/
theorem asciiLower_eq_toString_iff (hs : ∀ c ∈ s, c.toNat < 0x80) :
    Text.asciiLower s = u.toString.toList ↔
      (s.map Text.asciiByte).length = 36 ∧ ∀ i < 36, Stands u (s.map Text.asciiByte) i := by
  have hstands (i : Nat) (hi : i < s.length) :
      Stands u (s.map Text.asciiByte) i ↔ s[i].toLower = u.charAt i :=
    stands_iff (hs _ (List.getElem_mem hi)) (by simp [hi])
  rw [toList_toString_eq_map]
  constructor
  · intro h
    have hlength : s.length = 36 := by simpa [Text.asciiLower] using congrArg List.length h
    refine ⟨by simp [hlength], ?_⟩
    intro i hi
    have hget := List.getElem_of_eq h (by simpa [Text.asciiLower, hlength] using hi)
    rw [hstands i (by omega)]
    simpa [Text.asciiLower] using hget
  · intro h
    obtain ⟨hlength, hplaces⟩ := h
    rw [List.length_map] at hlength
    apply List.ext_getElem
    · simp [Text.asciiLower, hlength]
    · intro i hi hi'
      have hlt : i < 36 := by simpa using hi'
      simpa [Text.asciiLower] using (hstands i (by omega)).mp (hplaces i hlt)

/-- At the places stand the pairs of digits with the hyphens in between. -/
theorem forall_stands_iff : text.length = 36 ∧ (∀ i < 36, Stands u text i) ↔
    Hyphenated text ∧ u.bytes = pairPlaces.map (pairAt text) := by
  rw [bytes_eq_pairs_iff]
  constructor
  · intro h
    obtain ⟨hlength, hplaces⟩ := h
    have hdigit : ∀ i < 36, i ∉ hyphenPlaces →
        digitAt? text i = some ((halves u.bytes).getD (digitsBefore i) 0) := by
      intro i hi hmem
      have hstands := hplaces i hi
      rwa [Stands, if_neg hmem] at hstands
    refine ⟨⟨hlength, ?_, fun i hi hmem => ⟨_, hdigit i hi hmem⟩⟩, ?_⟩
    · intro i hmem
      have hlt : ∀ i ∈ hyphenPlaces, i < 36 := by decide
      have hstands := hplaces i (hlt i hmem)
      rwa [Stands, if_pos hmem] at hstands
    · intro i hi
      obtain ⟨hi, hmem⟩ := mem_digitPlaces.mp hi
      rw [digitAt, hdigit i hi hmem]
      rfl
  · intro h
    obtain ⟨hform, hbytes⟩ := h
    refine ⟨hform.size, ?_⟩
    intro i hi
    unfold Stands
    split
    · next hmem => exact hform.hyphens i hmem
    · next hmem =>
      obtain ⟨n, hn⟩ := hform.digits i hi hmem
      rw [hbytes i (mem_digitPlaces.mpr ⟨hi, hmem⟩), digitAt, hn]
      rfl

/-- All bytes of the form are ASCII. -/
theorem Hyphenated.ascii (h : Hyphenated text) : ∀ b ∈ text, b.toNat < 0x80 := by
  intro b hb
  obtain ⟨i, hi⟩ := List.mem_iff_getElem?.mp hb
  have hsize := h.size
  obtain ⟨hlt, -⟩ := List.getElem?_eq_some_iff.mp hi
  by_cases hmem : i ∈ hyphenPlaces
  · have hhyphen := h.hyphens i hmem
    rw [hi] at hhyphen
    cases hhyphen
    decide
  · obtain ⟨n, hn⟩ := h.digits i (by omega) hmem
    rw [digitAt?, hi] at hn
    exact (hexValue?_lt hn).2

/-- A text is read when its bytes have the form, and then as the pairs of its digits. -/
theorem read?_eq_some_iff_hyphenated : read? s = some u ↔
    Hyphenated (Text.bytes s) ∧ u.bytes = pairPlaces.map (pairAt (Text.bytes s)) := by
  rw [read?_eq_some, ← forall_stands_iff]
  constructor
  · intro h
    have hs : ∀ c ∈ s, c.toNat < 0x80 := by
      intro c hc
      have hmem : c.toLower ∈ u.toString.toList := h ▸ List.mem_map_of_mem hc
      exact Text.toNat_lt_of_toLower (u.toString_ascii _ hmem)
    rw [Text.bytes_ascii hs]
    exact (asciiLower_eq_toString_iff hs).mp h
  · intro h
    have hs := Text.ascii_of_bytes (forall_stands_iff.mp h).1.ascii
    rw [Text.bytes_ascii hs] at h
    exact (asciiLower_eq_toString_iff hs).mpr h

/-- The text has small letters. -/
theorem asciiLower_toString (u : Uuid) : Text.asciiLower u.toString.toList = u.toString.toList := by
  have hdigit : ∀ n < 16, (Nat.digitChar n).toLower = Nat.digitChar n := by decide
  rw [toList_toString_eq_map, Text.asciiLower, List.map_map]
  apply List.map_congr_left
  intro i _
  show (u.charAt i).toLower = u.charAt i
  unfold charAt
  split
  · decide
  · exact hdigit _ (getD_halves_lt u.bytes _)

theorem read?_toString (u : Uuid) : read? u.toString.toList = some u :=
  read?_eq_some.mpr u.asciiLower_toString

theorem toList_toString_injective {u v : Uuid} (h : u.toString.toList = v.toString.toList) :
    u = v := by
  have hread := u.read?_toString
  rw [h, v.read?_toString] at hread
  exact (Option.some.inj hread).symm

end Uuid

namespace Value

theorem ofLiteral?_uuid_eq_some {s : String} {v : Value} : ofLiteral? .uuid s = some v ↔
    ∃ u, Uuid.read? s.toList = some u ∧ Value.uuid u = v :=
  Option.map_eq_some_iff

/-- **UUIDs follow their text.** A literal is a UUID when its bytes are hexadecimal digits of either
case and the four hyphens between their groups, and the UUID is then that of the pairs of digits. Every
UUID is read from the text that it is written as, which has small letters. Literals denote one UUID
when they differ in the case of letters only, and the UUIDs are ordered as the bytes of the literals
in small letters. -/
theorem uuids_follow_text :
    (∀ (s : String) (v : Value), ofLiteral? .uuid s = some v ↔
      Uuid.Hyphenated (Text.bytes s.toList) ∧ ∃ u, v = .uuid u ∧
        u.bytes = Uuid.pairPlaces.map (Uuid.pairAt (Text.bytes s.toList))) ∧
    (∀ u : Uuid, Text.asciiLower u.toString.toList = u.toString.toList ∧
      ofLiteral? .uuid u.toString = some (.uuid u)) ∧
    (∀ (s t : String) (a b : Value), ofLiteral? .uuid s = some a → ofLiteral? .uuid t = some b →
      (a = b ↔ Text.asciiLower s.toList = Text.asciiLower t.toList)) ∧
    ∀ (s t : String) (a b : Value), ofLiteral? .uuid s = some a → ofLiteral? .uuid t = some b →
      (a.lt b = true ↔
        Text.bytes (Text.asciiLower s.toList) < Text.bytes (Text.asciiLower t.toList)) := by
  refine ⟨?_, ?_, ?_, ?_⟩
  · intro s v
    simp only [ofLiteral?_uuid_eq_some, Uuid.read?_eq_some_iff_hyphenated]
    constructor
    · intro h
      obtain ⟨u, hu, rfl⟩ := h
      exact ⟨hu.1, u, rfl, hu.2⟩
    · intro h
      obtain ⟨hform, u, rfl, hbytes⟩ := h
      exact ⟨u, ⟨hform, hbytes⟩, rfl⟩
  · intro u
    exact ⟨u.asciiLower_toString, ofLiteral?_uuid_eq_some.mpr ⟨u, u.read?_toString, rfl⟩⟩
  · intro s t a b hs ht
    obtain ⟨u, hu, rfl⟩ := ofLiteral?_uuid_eq_some.mp hs
    obtain ⟨v, hv, rfl⟩ := ofLiteral?_uuid_eq_some.mp ht
    rw [Uuid.read?_eq_some.mp hu, Uuid.read?_eq_some.mp hv]
    constructor
    · intro h
      cases h
      rfl
    · intro h
      rw [Uuid.toList_toString_injective h]
  · intro s t a b hs ht
    obtain ⟨u, hu, rfl⟩ := ofLiteral?_uuid_eq_some.mp hs
    obtain ⟨v, hv, rfl⟩ := ofLiteral?_uuid_eq_some.mp ht
    rw [Uuid.read?_eq_some.mp hu, Uuid.read?_eq_some.mp hv, ← Text.compare_eq_lt_iff,
      Uuid.compare_bytes_toString]
    simp [lt, compare?]

/-- A capital does not tell UUIDs apart, and it does not come before the small letters either. -/
theorem uuids_follow_text_capital :
    (∃ a b, ofLiteral? .uuid "00000000-0000-0000-0000-00000000000B" = some a ∧
      ofLiteral? .uuid "00000000-0000-0000-0000-00000000000b" = some b ∧ a = b) ∧
    ∃ a b, ofLiteral? .uuid "00000000-0000-0000-0000-00000000000a" = some a ∧
      ofLiteral? .uuid "00000000-0000-0000-0000-00000000000B" = some b ∧ a.lt b = true := by
  obtain ⟨a, ha⟩ : ∃ v, ofLiteral? .uuid "00000000-0000-0000-0000-00000000000a" = some v :=
    Option.isSome_iff_exists.mp (by decide +kernel)
  obtain ⟨b, hb⟩ : ∃ v, ofLiteral? .uuid "00000000-0000-0000-0000-00000000000b" = some v :=
    Option.isSome_iff_exists.mp (by decide +kernel)
  obtain ⟨c, hc⟩ : ∃ v, ofLiteral? .uuid "00000000-0000-0000-0000-00000000000B" = some v :=
    Option.isSome_iff_exists.mp (by decide +kernel)
  obtain ⟨-, -, halike, horder⟩ := uuids_follow_text
  exact ⟨⟨c, b, hc, hb, (halike _ _ c b hc hb).mpr (by decide +kernel)⟩,
    a, c, ha, hc, (horder _ _ a c ha hc).mpr (by decide +kernel)⟩

end Value
end RowFilter
