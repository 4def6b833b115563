import RowFilter.Proofs.Syntax.Coverage
import RowFilter.Proofs.Syntax.Shift
import RowFilter.Proofs.Syntax.WellFormed

/-!
# One scan for both separators

A filter is cut in two rounds, into groups first and every group into alternatives. Its pieces are
those of one scan from left to right that cuts at either separator, and the separators that the
scan meets tell the groups apart (`scanned_pieces`). The scan is the easier description of the two:
it can be put together where a separator stands (`Scanned.append`), because a separator that would
cross the seam had to hold a second mark.
-/

set_option autoImplicit false

namespace RowFilter
namespace Grouping

open Text (byteLength)

def separators : List (List Char) := [andSeparator, orSeparator]

/-- The scan of a text that starts at byte `offset`: its first piece, and the later ones with the
separators in front of them. Where the scan meets a separator it cuts it out, and every other
character goes to the piece under way. -/
inductive Scanned : Nat → List Char → Piece → List (List Char × Piece) → Prop
  | done {offset : Nat} : Scanned offset [] ⟨offset, []⟩ []
  | cut {offset : Nat} {sep s : List Char} {p : Piece} {later : List (List Char × Piece)} :
      sep ∈ separators → Scanned (offset + byteLength sep) s p later →
      Scanned offset (sep ++ s) ⟨offset, []⟩ ((sep, p) :: later)
  | char {offset : Nat} {c : Char} {s t : List Char} {later : List (List Char × Piece)} :
      (∀ sep ∈ separators, ¬ sep <+: c :: s) →
      Scanned (offset + c.utf8Size) s ⟨offset + c.utf8Size, t⟩ later →
      Scanned offset (c :: s) ⟨offset, c :: t⟩ later

variable {offset : Nat} {sep s a b : List Char} {p q : Piece}
  {later later' : List (List Char × Piece)}

/-! ## Separators -/

theorem mark_of_mem_separators (h : sep ∈ separators) : ∃ t, sep = '_' :: t ∧ '_' ∉ t := by
  rcases List.mem_pair.mp h with rfl | rfl
  · exact ⟨['A', 'n', 'd'], rfl, by decide⟩
  · exact ⟨['O', 'r'], rfl, by decide⟩

theorem marked_of_mem_separators (h : sep ∈ separators) : Text.Marked sep := by
  obtain ⟨t, hsep, ht⟩ := mark_of_mem_separators h
  exact ⟨'_', t, hsep, ht⟩

/-- The same text does not start with one separator and with the other. -/
theorem separators_unambiguous {sep' s' : List Char} (h : sep ∈ separators)
    (h' : sep' ∈ separators) (heq : sep ++ s = sep' ++ s') : sep = sep' := by
  rcases List.mem_pair.mp h with rfl | rfl <;> rcases List.mem_pair.mp h' with rfl | rfl
  · rfl
  · simp [andSeparator, orSeparator] at heq
  · simp [andSeparator, orSeparator] at heq
  · rfl

theorem not_prefix_of_separatorFree (hs : SeparatorFree s) (h : sep ∈ separators) :
    ¬ sep <+: s := by
  intro hfront
  rcases List.mem_pair.mp h with rfl | rfl
  · exact hs.1 hfront.isInfix
  · exact hs.2 hfront.isInfix

/-! ## The scan of a text -/

namespace Scanned

/-- What the scan has met first. -/
theorem cases_eq {o : Nat} {x : List Char} {r : Piece} {rest : List (List Char × Piece)}
    (h : Scanned o x r rest) :
    (x = [] ∧ r = ⟨o, []⟩ ∧ rest = []) ∨
    (∃ sep s p later, sep ∈ separators ∧ Scanned (o + byteLength sep) s p later ∧
      x = sep ++ s ∧ r = ⟨o, []⟩ ∧ rest = (sep, p) :: later) ∨
    (∃ c s t, (∀ sep ∈ separators, ¬ sep <+: c :: s) ∧
      Scanned (o + c.utf8Size) s ⟨o + c.utf8Size, t⟩ rest ∧ x = c :: s ∧ r = ⟨o, c :: t⟩) := by
  cases h with
  | done => exact Or.inl ⟨rfl, rfl, rfl⟩
  | cut hsep h => exact Or.inr (Or.inl ⟨_, _, _, _, hsep, h, rfl, rfl, rfl⟩)
  | char hc h => exact Or.inr (Or.inr ⟨_, _, _, hc, h, rfl, rfl⟩)

/-- There is one scan of a text. -/
theorem unique (h : Scanned offset s p later) {p' : Piece} (h' : Scanned offset s p' later') :
    p' = p ∧ later' = later := by
  induction h generalizing p' later' with
  | @done offset =>
    rcases cases_eq h' with ⟨-, hp, hlater⟩ | ⟨sep, s, p, later, hsep, -, hs, -⟩ |
      ⟨c, s, t, -, -, hs, -⟩
    · exact ⟨hp, hlater⟩
    · obtain ⟨t, rfl, -⟩ := mark_of_mem_separators hsep
      cases hs
    · cases hs
  | @cut offset sep s p later hsep _ ih =>
    rcases cases_eq h' with ⟨hs, -⟩ | ⟨sep', s', p'', later'', hsep', hscan, hs, hp, hlater⟩ |
      ⟨c, s', t, hc, -, hs, -⟩
    · obtain ⟨t, rfl, -⟩ := mark_of_mem_separators hsep
      cases hs
    · -- Both scans are at a separator, so it is the same one and leaves the same text.
      obtain rfl := separators_unambiguous hsep hsep' hs
      obtain rfl := List.append_cancel_left hs
      obtain ⟨rfl, rfl⟩ := ih hscan
      exact ⟨hp, hlater⟩
    · exact absurd (hs ▸ List.prefix_append sep s) (hc sep hsep)
  | @char offset c s t later hc _ ih =>
    rcases cases_eq h' with ⟨hs, -⟩ | ⟨sep', s', p'', later'', hsep', -, hs, -⟩ |
      ⟨c', s', t', -, hscan, hs, hp⟩
    · cases hs
    · exact absurd (hs ▸ List.prefix_append sep' s') (hc sep' hsep')
    · cases hs
      obtain ⟨ht, hlater⟩ := ih hscan
      cases ht
      exact ⟨hp, hlater⟩

/-- A text without separators is one piece. -/
theorem of_free (offset : Nat) (hs : SeparatorFree s) : Scanned offset s ⟨offset, s⟩ [] := by
  induction s generalizing offset with
  | nil => exact .done
  | cons c s ih =>
    have htail : SeparatorFree s := hs.mono (List.suffix_cons c s).isInfix
    exact .char (fun sep hsep => not_prefix_of_separatorFree hs hsep) (ih _ htail)

/-- Scans are put together where a separator stands, whatever the texts around it. -/
theorem append (h : Scanned offset a p later) (hsep : sep ∈ separators)
    (h' : Scanned (offset + byteLength a + byteLength sep) b q later') :
    Scanned offset (a ++ sep ++ b) p (later ++ (sep, q) :: later') := by
  induction h with
  | done => exact .cut hsep h'
  | @cut offset sep' s p later hsep' _ ih =>
    rw [Text.byteLength_append, ← Nat.add_assoc] at h'
    rw [List.append_assoc, List.append_assoc, ← List.append_assoc s]
    exact .cut hsep' (ih h')
  | @char offset c s t later hc _ ih =>
    have hseam : ∀ sep' ∈ separators, ¬ sep' <+: c :: (s ++ sep ++ b) := by
      -- One that starts in front of the seam ends there, because the next one starts with the mark.
      intro sep' hsep' hfront
      obtain ⟨r, rfl, -⟩ := mark_of_mem_separators hsep
      obtain ⟨r', rfl, hr'⟩ := mark_of_mem_separators hsep'
      rw [List.append_assoc, List.cons_append] at hfront
      exact hc _ hsep' (Text.prefix_of_prefix_cons_append hr' hfront)
    rw [byteLength, ← Nat.add_assoc] at h'
    exact .char hseam (ih h')

theorem shift (n : Nat) (h : Scanned offset s p later) :
    Scanned (offset + n) s (p.shift n) (later.map (Prod.map id (Piece.shift n))) := by
  induction h with
  | done => exact .done
  | cut hsep _ ih =>
    rw [Nat.add_right_comm] at ih
    exact .cut hsep ih
  | char hc _ ih =>
    unfold Piece.shift at ih
    rw [Nat.add_right_comm] at ih
    exact .char hc ih

end Scanned

/-! ## Groups from separators -/

/-- The pieces of a scan, in groups: a separator of groups starts a group, and the other one goes on
with it. -/
def regroup : Piece → List (List Char × Piece) → List (List Piece)
  | p, [] => [[p]]
  | p, (sep, q) :: later =>
    if sep = andSeparator then [p] :: regroup q later
    else (regroup q later).modifyHead (p :: ·)

theorem regroup_ne_nil (p : Piece) (later : List (List Char × Piece)) : regroup p later ≠ [] := by
  induction later generalizing p with
  | nil => exact List.cons_ne_nil [p] []
  | cons x later ih =>
    obtain ⟨sep, q⟩ := x
    rw [regroup]
    by_cases hsep : sep = andSeparator
    · simp [hsep]
    · rw [if_neg hsep, ne_eq, List.modifyHead_eq_nil_iff]
      exact ih q

theorem flatten_regroup (p : Piece) (later : List (List Char × Piece)) :
    (regroup p later).flatten = p :: later.map Prod.snd := by
  induction later generalizing p with
  | nil => rfl
  | cons x later ih =>
    obtain ⟨sep, q⟩ := x
    rw [regroup]
    by_cases hsep : sep = andSeparator
    · rw [if_pos hsep, List.flatten_cons, ih]
      rfl
    · obtain ⟨ps, pss, hcons⟩ := List.exists_cons_of_ne_nil (regroup_ne_nil q later)
      rw [if_neg hsep, hcons, List.modifyHead_cons, List.flatten_cons, List.cons_append,
        ← List.flatten_cons, ← hcons, ih]
      rfl

theorem regroup_shift (n : Nat) (p : Piece) (later : List (List Char × Piece)) :
    regroup (p.shift n) (later.map (Prod.map id (Piece.shift n))) =
      (regroup p later).map (List.map (Piece.shift n)) := by
  induction later generalizing p with
  | nil => rfl
  | cons x later ih =>
    obtain ⟨sep, q⟩ := x
    rw [List.map_cons, Prod.map_apply, regroup, regroup, id, ih]
    by_cases hsep : sep = andSeparator
    · rw [if_pos hsep, if_pos hsep]
      rfl
    · obtain ⟨ps, pss, hcons⟩ := List.exists_cons_of_ne_nil (regroup_ne_nil q later)
      rw [if_neg hsep, if_neg hsep, hcons]
      rfl

theorem regroup_append_and (p q : Piece) (later later' : List (List Char × Piece)) :
    regroup p (later ++ (andSeparator, q) :: later') = regroup p later ++ regroup q later' := by
  induction later generalizing p with
  | nil =>
    rw [List.nil_append, regroup, regroup, if_pos rfl]
    rfl
  | cons x later ih =>
    obtain ⟨sep, r⟩ := x
    rw [List.cons_append, regroup, regroup, ih]
    by_cases hsep : sep = andSeparator
    · rw [if_pos hsep, if_pos hsep, List.cons_append]
    · obtain ⟨ps, pss, hcons⟩ := List.exists_cons_of_ne_nil (regroup_ne_nil r later)
      rw [if_neg hsep, if_neg hsep, hcons]
      rfl

theorem regroup_append_or (p q : Piece) (later later' : List (List Char × Piece)) :
    ∃ init last first rest, regroup p later = init ++ [last] ∧ regroup q later' = first :: rest ∧
      regroup p (later ++ (orSeparator, q) :: later') = init ++ (last ++ first) :: rest := by
  obtain ⟨first, rest, hcons⟩ := List.exists_cons_of_ne_nil (regroup_ne_nil q later')
  induction later generalizing p with
  | nil =>
    refine ⟨[], [p], first, rest, rfl, hcons, ?_⟩
    rw [List.nil_append, regroup, if_neg (by decide), hcons]
    rfl
  | cons x later ih =>
    obtain ⟨sep, r⟩ := x
    obtain ⟨init, last, first, rest, hlater, hlater', happend⟩ := ih r
    rw [List.cons_append, regroup, regroup, hlater, happend]
    by_cases hsep : sep = andSeparator
    · refine ⟨[p] :: init, last, first, rest, ?_, hlater', ?_⟩
      · rw [if_pos hsep, List.cons_append]
      · rw [if_pos hsep, List.cons_append]
    · rw [if_neg hsep, if_neg hsep]
      cases init with
      | nil => exact ⟨[], p :: last, first, rest, rfl, hlater', rfl⟩
      | cons group init => exact ⟨(p :: group) :: init, last, first, rest, rfl, hlater', rfl⟩

/-! ## The pieces of a filter -/

/-- Alternatives are scanned as one group. -/
theorem exists_scanned_of_alternatives {ps : List Piece}
    (h : Joined orSeparator Piece.StandsIn offset ps s) (hfree : ∀ p ∈ ps, SeparatorFree p.text) :
    ∃ p later, Scanned offset s p later ∧ regroup p later = [ps] := by
  induction h with
  | @one offset p s hp =>
    obtain rfl := hp
    exact ⟨_, [], .of_free offset (hfree _ List.mem_cons_self), rfl⟩
  | @more offset p ps s r hp _ ih =>
    obtain rfl := hp
    have hs : SeparatorFree s := hfree _ List.mem_cons_self
    obtain ⟨q, later, hscan, hgroups⟩ := ih fun q hq => hfree q (List.mem_cons_of_mem _ hq)
    refine ⟨⟨offset, s⟩, (orSeparator, q) :: later, ?_, ?_⟩
    · exact (Scanned.of_free offset hs).append (by decide) hscan
    · rw [regroup, if_neg (by decide), hgroups]
      rfl

theorem exists_scanned_of_groups {pieces : List (List Piece)}
    (h : Joined andSeparator (Joined orSeparator Piece.StandsIn) offset pieces s)
    (hfree : ∀ ps ∈ pieces, ∀ p ∈ ps, SeparatorFree p.text) :
    ∃ p later, Scanned offset s p later ∧ regroup p later = pieces := by
  induction h with
  | one hps => exact exists_scanned_of_alternatives hps (hfree _ List.mem_cons_self)
  | more hps _ ih =>
    obtain ⟨p, later, hscan, hgroup⟩ :=
      exists_scanned_of_alternatives hps (hfree _ List.mem_cons_self)
    obtain ⟨q, later', hscan', hgroups⟩ := ih fun ps hps => hfree ps (List.mem_cons_of_mem _ hps)
    refine ⟨p, later ++ (andSeparator, q) :: later', hscan.append (by decide) hscan', ?_⟩
    rw [regroup_append_and, hgroup, hgroups, List.singleton_append]

/-- **Cutting twice is scanning once.** The pieces of a filter are those of the one scan for both
separators. -/
theorem scanned_pieces (src : List Char) :
    ∃ p later, Scanned 0 src p later ∧ regroup p later = pieces src :=
  exists_scanned_of_groups (joined_pieces src) fun _ hps _ hp => separatorFree_of_mem_pieces hps hp

theorem pieces_of_scanned {src : List Char} (h : Scanned 0 src p later) :
    pieces src = regroup p later := by
  obtain ⟨p', later', h', hpieces⟩ := scanned_pieces src
  obtain ⟨rfl, rfl⟩ := h.unique h'
  exact hpieces.symm

/-! ## The pieces of two filters with a separator between them -/

theorem exists_scanned_append (a b : List Char) (hsep : sep ∈ separators) :
    ∃ p later q later', pieces a = regroup p later ∧
      (pieces b).map (List.map (Piece.shift (byteLength a + byteLength sep))) = regroup q later' ∧
      pieces (a ++ sep ++ b) = regroup p (later ++ (sep, q) :: later') := by
  obtain ⟨p, later, ha, hpieces⟩ := scanned_pieces a
  obtain ⟨q, later', hb, hpieces'⟩ := scanned_pieces b
  have hb' := hb.shift (byteLength a + byteLength sep)
  rw [← Nat.add_assoc] at hb'
  refine ⟨p, later, _, _, hpieces.symm, ?_, pieces_of_scanned (ha.append hsep hb')⟩
  rw [regroup_shift, hpieces']

theorem pieces_append_and (a b : List Char) :
    pieces (a ++ andSeparator ++ b) = pieces a ++
      (pieces b).map (List.map (Piece.shift (byteLength a + byteLength andSeparator))) := by
  obtain ⟨p, later, q, later', ha, hb, happend⟩ :=
    exists_scanned_append a b (show andSeparator ∈ separators by decide)
  rw [happend, regroup_append_and, ← ha, ← hb]

theorem exists_pieces_append_or (a b : List Char) :
    let n := byteLength a + byteLength orSeparator
    ∃ init last first rest, pieces a = init ++ [last] ∧ pieces b = first :: rest ∧
      pieces (a ++ orSeparator ++ b) = init ++ (last ++ first.map (Piece.shift n)) ::
        rest.map (List.map (Piece.shift n)) := by
  obtain ⟨p, later, q, later', ha, hb, happend⟩ :=
    exists_scanned_append a b (show orSeparator ∈ separators by decide)
  obtain ⟨init, last, _, _, hlater, hlater', hregroup⟩ := regroup_append_or p q later later'
  rw [← hb] at hlater'
  obtain ⟨first, rest, hpieces, rfl, rfl⟩ := List.map_eq_cons_iff.mp hlater'
  exact ⟨init, last, first, rest, ha.trans hlater, hpieces, happend.trans hregroup⟩

/-- Either separator goes on with the pieces of the second text. -/
theorem flatten_pieces_append (a b : List Char) (hsep : sep ∈ separators) :
    (pieces (a ++ sep ++ b)).flatten = (pieces a).flatten ++
      (pieces b).flatten.map (Piece.shift (byteLength a + byteLength sep)) := by
  obtain ⟨p, later, q, later', ha, hb, happend⟩ := exists_scanned_append a b hsep
  rw [happend, ha, List.map_flatten, hb, flatten_regroup, flatten_regroup, flatten_regroup]
  simp

end Grouping
end RowFilter
