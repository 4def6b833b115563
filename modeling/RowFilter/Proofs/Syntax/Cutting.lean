import RowFilter.Proofs.Syntax.Scan

/-!
# Cutting at a separator is exact

`Piece.split` cuts a stretch of a filter at one separator. Nothing is lost and nothing is left to
cut: the pieces, joined again, are the stretch, none of them holds the separator, and no other list
of texts has both properties (`eq_map_text_split`). Each piece knows the byte at which it starts, and
that is the number of bytes in front of it (`Joined.before_piece`).

Which of the two separators is cut at first does not matter for the pieces. Either way they are those
of the one scan that cuts at both (`scanned_split_split`), and a text has one scan only.
-/

set_option autoImplicit false

namespace RowFilter

open Text (byteLength)

/-! ## Where a piece starts -/

/-- What the text holds in front of the piece that comes after these: each of them, and a separator
behind each. -/
def Piece.frontOf (sep : List Char) (before : List Piece) : List Char :=
  before.flatMap fun q => q.text ++ sep

/-- A piece of a join starts where its front ends. -/
theorem Joined.before_piece {sep s : List Char} {offset : Nat} {ps before after : List Piece}
    {p : Piece} (h : Joined sep Piece.StandsIn offset ps s) (hps : ps = before ++ p :: after) :
    p.offset = offset + byteLength (Piece.frontOf sep before) ∧
      ∃ back, s = Piece.frontOf sep before ++ (p.text ++ back) := by
  induction h generalizing before with
  | @one offset q s hq =>
    obtain rfl := hq
    obtain ⟨rfl, hp⟩ : before = [] ∧ p = ⟨offset, s⟩ := by
      cases before with
      | nil => exact ⟨rfl, (List.cons.inj hps).1.symm⟩
      | cons b before => simp at hps
    rw [hp]
    exact ⟨rfl, [], (List.append_nil s).symm⟩
  | @more offset q qs s r hq _ ih =>
    obtain rfl := hq
    cases before with
    | nil =>
      obtain ⟨rfl, rfl⟩ := List.cons.inj hps
      exact ⟨rfl, sep ++ r, List.append_assoc s sep r⟩
    | cons b before =>
      -- Behind the first piece and its separator the same holds of the rest.
      obtain ⟨rfl, hqs⟩ := List.cons.inj hps
      obtain ⟨hoffset, back, hr⟩ := ih hqs
      have hfront : Piece.frontOf sep (⟨offset, s⟩ :: before) =
          s ++ sep ++ Piece.frontOf sep before := List.flatMap_cons
      refine ⟨?_, back, ?_⟩
      · rw [hoffset, hfront, Text.byteLength_append, Text.byteLength_append]
        omega
      · rw [hfront, hr, List.append_assoc (s ++ sep)]

namespace Piece

variable {sep : List Char} {p : Piece}

/-- **A text has one list of pieces.** -/
theorem eq_map_text_split (hsep : Text.Marked sep) {texts : List (List Char)} (hne : texts ≠ [])
    (hfree : ∀ t ∈ texts, ¬ sep <:+: t) (hjoin : sep.intercalate texts = p.text) :
    texts = (p.split sep).map Piece.text := by
  rw [map_text_split, ← hjoin, Text.splitAround_intercalate hsep hne hfree]

end Piece

namespace Grouping

variable {sep sep' : List Char}

/-! ## Cutting twice -/

/-- A join of texts that are scanned is scanned, and has their pieces. -/
theorem exists_scanned_of_joined {α : Type} {Stands : Nat → α → List Char → Prop}
    (piecesOf : α → List Piece) {offset : Nat} {xs : List α} {s : List Char}
    (hsep : sep ∈ separators) (h : Joined sep Stands offset xs s)
    (hstands : ∀ x ∈ xs, ∀ o t, Stands o x t →
      ∃ p later, Scanned o t p later ∧ p :: later.map Prod.snd = piecesOf x) :
    ∃ p later, Scanned offset s p later ∧ p :: later.map Prod.snd = xs.flatMap piecesOf := by
  induction h with
  | @one offset x s hx =>
    obtain ⟨p, later, hscan, hpieces⟩ := hstands x List.mem_cons_self offset s hx
    exact ⟨p, later, hscan, by rw [hpieces, List.flatMap_singleton]⟩
  | @more offset x xs s r hx _ ih =>
    obtain ⟨p, later, hscan, hpieces⟩ := hstands x List.mem_cons_self offset s hx
    obtain ⟨q, later', hscan', hpieces'⟩ := ih fun y hy => hstands y (List.mem_cons_of_mem x hy)
    refine ⟨p, later ++ (sep, q) :: later', hscan.append hsep hscan', ?_⟩
    rw [List.flatMap_cons, ← hpieces, ← hpieces', List.map_append, List.map_cons, List.cons_append]

/-- The pieces that are left after cutting at one separator and then at another are those of the
scan, if they hold neither. -/
theorem scanned_split_split (hsep : sep ∈ separators) (hsep' : sep' ∈ separators) (p : Piece)
    (hfree : ∀ q ∈ p.split sep, ∀ r ∈ q.split sep', SeparatorFree r.text) :
    ∃ first later, Scanned p.offset p.text first later ∧
      first :: later.map Prod.snd = (p.split sep).flatMap (Piece.split sep') := by
  have hjoined := Piece.joined_split_split (marked_of_mem_separators hsep).ne_nil
    (marked_of_mem_separators hsep').ne_nil p
  have hscan := exists_scanned_of_joined id hsep hjoined fun ps hps o t ht => by
    -- Inside, the pieces are free of separators, and each is scanned as one.
    obtain ⟨q, hq, rfl⟩ := List.mem_map.mp hps
    have hone := exists_scanned_of_joined (fun r => [r]) hsep' ht fun r hr o t hrt => by
      obtain rfl := hrt
      exact ⟨⟨o, t⟩, [], .of_free o (hfree q hq _ hr), rfl⟩
    rwa [List.flatMap_singleton'] at hone
  rwa [List.flatMap_id, ← List.flatMap_def] at hscan

/-- **Cutting at one separator loses nothing and leaves nothing to cut, and the order of two cuts does
not matter.** The pieces joined again are the text, there is one at least and none holds the
separator; no other texts are like this. Each piece starts at the byte that its offset says, counted
from the base: in front of it stand the pieces before it, with a separator behind each. No offset
goes past the end of the text. Cutting at both separators gives the same pieces at the same bytes
whichever of them comes first. -/
theorem cuts_exact (sep : List Char) (hsep : sep ∈ separators) (base : Nat) (src : List Char) :
    sep.intercalate ((Piece.split sep ⟨base, src⟩).map Piece.text) = src ∧
    (∀ p ∈ Piece.split sep ⟨base, src⟩, ¬ sep <:+: p.text) ∧
    Piece.split sep ⟨base, src⟩ ≠ [] ∧
    (∀ before p after, Piece.split sep ⟨base, src⟩ = before ++ p :: after →
      p.offset = base + byteLength (Piece.frontOf sep before) ∧
      p.offset + byteLength p.text ≤ base + byteLength src ∧
      ∃ back, Text.cutAt (p.offset - base) src =
        some (Piece.frontOf sep before, p.text ++ back)) ∧
    (∀ texts, texts ≠ [] → (∀ t ∈ texts, ¬ sep <:+: t) → sep.intercalate texts = src →
      texts = (Piece.split sep ⟨base, src⟩).map Piece.text) ∧
    (Piece.split andSeparator ⟨base, src⟩).flatMap (Piece.split orSeparator) =
      (Piece.split orSeparator ⟨base, src⟩).flatMap (Piece.split andSeparator) := by
  have hmarked : Text.Marked sep := marked_of_mem_separators hsep
  refine ⟨?_, ?_, ?_, ?_, ?_, ?_⟩
  · rw [Piece.map_text_split, Text.intercalate_splitAround hmarked.ne_nil]
  · exact fun p hp => Piece.not_infix_of_mem_split hmarked.ne_nil hp
  · exact Piece.split_ne_nil sep ⟨base, src⟩
  · intro before p after hps
    obtain ⟨hoffset, back, hsrc⟩ : p.offset = base + byteLength (Piece.frontOf sep before) ∧
        ∃ back, src = Piece.frontOf sep before ++ (p.text ++ back) :=
      (Piece.joined_split hmarked.ne_nil ⟨base, src⟩).before_piece hps
    refine ⟨hoffset, ?_, back, ?_⟩
    · rw [hoffset, hsrc, Text.byteLength_append, Text.byteLength_append]
      omega
    · rw [hoffset, Nat.add_sub_cancel_left, hsrc, Text.cutAt_append]
  · exact fun texts hne hfree hjoin => Piece.eq_map_text_split hmarked hne hfree hjoin
  · have hand : andSeparator ∈ separators := by decide
    have hor : orSeparator ∈ separators := by decide
    obtain ⟨p, later, hscan, hpieces⟩ := scanned_split_split hand hor ⟨base, src⟩ fun q hq r hr =>
      Piece.not_infix_of_mem_split_split (by decide) (by decide) hq hr
    obtain ⟨p', later', hscan', hpieces'⟩ := scanned_split_split hor hand ⟨base, src⟩
      fun q hq r hr => (Piece.not_infix_of_mem_split_split (by decide) (by decide) hq hr).symm
    obtain ⟨rfl, rfl⟩ := hscan.unique hscan'
    rw [← hpieces, hpieces']

/-- Marks in a row: the first of two starts no separator, and the letter in front takes two bytes. -/
theorem cuts_exact_marks :
    orSeparator ∈ separators ∧
    Piece.split orSeparator ⟨7, "é_O_Or__And_".toList⟩ =
      [⟨7, "é_O".toList⟩] ++ ⟨14, "__And_".toList⟩ :: [] ∧
    orSeparator.intercalate ["é_O".toList, "__And_".toList] = "é_O_Or__And_".toList ∧
    (∀ t ∈ ["é_O".toList, "__And_".toList], ¬ orSeparator <:+: t) ∧
    14 = 7 + byteLength (Piece.frontOf orSeparator [⟨7, "é_O".toList⟩]) ∧
    (∃ back, Text.cutAt (14 - 7) "é_O_Or__And_".toList =
      some ("é_O_Or".toList, "__And_".toList ++ back)) ∧
    ["é_O".toList, "__And_".toList] =
      (Piece.split orSeparator ⟨7, "é_O_Or__And_".toList⟩).map Piece.text ∧
    (Piece.split andSeparator ⟨7, "é_O_Or__And_".toList⟩).flatMap (Piece.split orSeparator) =
      (Piece.split orSeparator ⟨7, "é_O_Or__And_".toList⟩).flatMap (Piece.split andSeparator) := by
  have hsep : orSeparator ∈ separators := by decide
  obtain ⟨-, -, -, hbefore, hunique, horder⟩ := cuts_exact orSeparator hsep 7 "é_O_Or__And_".toList
  have hsplit : Piece.split orSeparator ⟨7, "é_O_Or__And_".toList⟩ =
      [⟨7, "é_O".toList⟩] ++ ⟨14, "__And_".toList⟩ :: [] := by decide +kernel
  have hjoin : orSeparator.intercalate ["é_O".toList, "__And_".toList] =
      "é_O_Or__And_".toList := by decide +kernel
  have hfree : ∀ t ∈ ["é_O".toList, "__And_".toList], ¬ orSeparator <:+: t := by decide +kernel
  obtain ⟨hoffset, -, hcut⟩ := hbefore _ _ _ hsplit
  exact ⟨hsep, hsplit, hjoin, hfree, hoffset, hcut, hunique _ (by simp) hfree hjoin, horder⟩

end Grouping
end RowFilter
