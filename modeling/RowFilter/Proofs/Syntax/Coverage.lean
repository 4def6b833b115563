import RowFilter.Proofs.Syntax.ClauseText
import RowFilter.Proofs.Syntax.Reading
import RowFilter.Text.Bytes

/-!
# Spans cover the text

A filter that has been read is its clauses' own texts, in order, with blanks and separators between
them and nothing else, and the span of each clause is the place of its own text. The invariant is
`Joined`: items stand one after another from some byte on, with one separator between each two. A
filter is a join of groups by `_And`, a group is a join of alternatives by `_Or`, and both levels
count their bytes from the start of the whole filter.
-/

set_option autoImplicit false

namespace RowFilter

open Text (byteLength)

/-- The text that a span covers, if it starts and ends between two characters. -/
def Span.textIn? (span : Span) (src : List Char) : Option (List Char) :=
  match Text.cutAt span.offset src with
  | none => none
  | some (_, back) => (Text.cutAt span.len back).map Prod.fst

theorem Span.textIn?_append (front t back : List Char) :
    textIn? ⟨byteLength front, byteLength t⟩ (front ++ t ++ back) = some t := by
  rw [textIn?, List.append_assoc, Text.cutAt_append]
  show (Text.cutAt (byteLength t) (t ++ back)).map Prod.fst = some t
  rw [Text.cutAt_append]
  rfl

/-- The text of a span, the text in front of it and the text behind it make up the whole text. -/
theorem Span.textIn?_eq_some {span : Span} {src t : List Char} :
    span.textIn? src = some t ↔ ∃ front back, src = front ++ t ++ back ∧
      span.offset = byteLength front ∧ span.len = byteLength t := by
  constructor
  · intro h
    rw [textIn?] at h
    split at h
    · cases h
    · next front rest hfront =>
      obtain ⟨⟨t', back⟩, hback, rfl⟩ := Option.map_eq_some_iff.mp h
      obtain ⟨rfl, hoffset⟩ := Text.eq_append_of_cutAt hfront
      obtain ⟨rfl, hlen⟩ := Text.eq_append_of_cutAt hback
      exact ⟨front, back, (List.append_assoc front t' back).symm, hoffset.symm, hlen.symm⟩
  · rintro ⟨front, back, rfl, hoffset, hlen⟩
    have htext := textIn?_append front t back
    rwa [← hoffset, ← hlen] at htext

/-! ## Joins -/

/-- The text is that of the items, from byte `offset` on, with one separator between each two.
`Stands` says where an item and its text stand. -/
inductive Joined {α : Type} (sep : List Char) (Stands : Nat → α → List Char → Prop) :
    Nat → List α → List Char → Prop
  | one {offset : Nat} {x : α} {s : List Char} :
      Stands offset x s → Joined sep Stands offset [x] s
  | more {offset : Nat} {x : α} {xs : List α} {s r : List Char} :
      Stands offset x s → Joined sep Stands (offset + byteLength s + byteLength sep) xs r →
      Joined sep Stands offset (x :: xs) (s ++ sep ++ r)

/-- The piece is this text, from this byte on. -/
def Piece.StandsIn (offset : Nat) (p : Piece) (s : List Char) : Prop := p = ⟨offset, s⟩

section

variable {α β : Type} {sep : List Char} {offset : Nat} {s : List Char}

/-- The pieces of a text are joined to it. -/
theorem joined_locate (sep : List Char) (offset : Nat) {texts : List (List Char)}
    (hne : texts ≠ []) :
    Joined sep Piece.StandsIn offset (Piece.locate (byteLength sep) offset texts)
      (sep.intercalate texts) := by
  induction texts generalizing offset with
  | nil => exact absurd rfl hne
  | cons text texts ih =>
    cases texts with
    | nil =>
      rw [List.intercalate_singleton]
      exact .one rfl
    | cons text' texts =>
      rw [List.intercalate_cons_cons, Piece.locate]
      exact .more rfl (ih _ (List.cons_ne_nil text' texts))

theorem Piece.joined_split (hsep : sep ≠ []) (p : Piece) :
    Joined sep Piece.StandsIn p.offset (p.split sep) p.text := by
  have h := joined_locate sep p.offset (Text.splitAround_ne_nil sep p.text)
  rwa [Text.intercalate_splitAround hsep] at h

/-- Items that stand for one another one by one are joined alike. -/
theorem Joined.forall₂ {Stands : Nat → α → List Char → Prop} {Stands' : Nat → β → List Char → Prop}
    {R : α → β → Prop} (hstands : ∀ o x y t, Stands o x t → R x y → Stands' o y t) {xs : List α}
    {ys : List β} (h : Joined sep Stands offset xs s) (hxys : List.Forall₂ R xs ys) :
    Joined sep Stands' offset ys s := by
  induction h generalizing ys with
  | one hx =>
    obtain ⟨y, ys, hxy, hnil, rfl⟩ := List.forall₂_cons_left_iff.mp hxys
    rw [List.forall₂_nil_left_iff.mp hnil]
    exact .one (hstands _ _ _ _ hx hxy)
  | more hx _ ih =>
    obtain ⟨y, ys, hxy, hrest, rfl⟩ := List.forall₂_cons_left_iff.mp hxys
    exact .more (hstands _ _ _ _ hx hxy) (ih hrest)

/-- Pieces that are split again are joined to the text at both levels. -/
theorem Piece.joined_split_split {sep' : List Char} (hsep : sep ≠ []) (hsep' : sep' ≠ [])
    (p : Piece) : Joined sep (Joined sep' Piece.StandsIn) p.offset
      ((p.split sep).map (Piece.split sep')) p.text := by
  have hsplit : List.Forall₂ (fun q ps => q.split sep' = ps) (p.split sep)
      ((p.split sep).map (Piece.split sep')) :=
    List.forall₂_map_right_iff.mpr (List.forall₂_same.mpr fun _ _ => rfl)
  refine (p.joined_split hsep).forall₂ ?_ hsplit
  rintro offset q ps s rfl rfl
  exact Piece.joined_split hsep' ⟨offset, s⟩

variable {Stands : Nat → α → List Char → Prop} {xs : List α}

/-- Every item stands somewhere in the text. -/
theorem Joined.exists_of_mem (h : Joined sep Stands offset xs s) {x : α} (hx : x ∈ xs) :
    ∃ front t back, s = front ++ t ++ back ∧ Stands (offset + byteLength front) x t := by
  induction h with
  | @one offset y s hy =>
    rw [List.mem_singleton.mp hx]
    exact ⟨[], s, [], by simp, hy⟩
  | @more offset y ys s r hy _ ih =>
    rcases List.mem_cons.mp hx with rfl | hx
    · exact ⟨[], s, sep ++ r, by simp, hy⟩
    · -- In front of it stand the first item, a separator and what the later items have there.
      obtain ⟨front, t, back, rfl, ht⟩ := ih hx
      refine ⟨s ++ sep ++ front, t, back, by simp, ?_⟩
      rwa [Text.byteLength_append, Text.byteLength_append, ← Nat.add_assoc, ← Nat.add_assoc]

/-! ## Order -/

/-- The clauses stand between two bytes, in order and with something between each two. -/
def Ascending (first last : Nat) (cs : List Clause) : Prop :=
  cs.Pairwise (fun a b => a.span.stop < b.span.offset) ∧
    ∀ c ∈ cs, first ≤ c.span.offset ∧ c.span.stop ≤ last

/-- A join keeps the order of its items, because a separator is not empty. -/
theorem Joined.ascending {clausesOf : α → List Clause} (hsep : 0 < byteLength sep)
    (hstands : ∀ o x t, Stands o x t → Ascending o (o + byteLength t) (clausesOf x))
    (h : Joined sep Stands offset xs s) :
    Ascending offset (offset + byteLength s) (xs.flatMap clausesOf) := by
  induction h with
  | @one offset x s hx =>
    rw [List.flatMap_cons, List.flatMap_nil, List.append_nil]
    exact hstands offset x s hx
  | @more offset x xs s r hx _ ih =>
    obtain ⟨hpairs, hbounds⟩ := hstands offset x s hx
    obtain ⟨hpairs', hbounds'⟩ := ih
    rw [List.flatMap_cons, Text.byteLength_append, Text.byteLength_append]
    refine ⟨List.pairwise_append.mpr ⟨hpairs, hpairs', fun a ha b hb => ?_⟩, fun c hc => ?_⟩
    · -- Across the cut there is the separator, which takes at least a byte.
      have hfirst := (hbounds a ha).2
      have hlater := (hbounds' b hb).1
      omega
    · rcases List.mem_append.mp hc with hc | hc
      · have hc := hbounds c hc
        omega
      · have hc := hbounds' c hc
        omega

end

/-! ## Clauses, groups and filters in their text -/

/-- The text is the clause's own text with blanks around it. The own text is not empty and has no
blanks around it, it stands where the span says, and alone it is read as the clause. -/
def Clause.StandsIn (offset : Nat) (c : Clause) (s : List Char) : Prop :=
  ∃ u t v, s = u ++ t ++ v ∧ Text.allBlank u = true ∧ Text.allBlank v = true ∧
    t ≠ [] ∧ Text.Trimmed t ∧ c.span = ⟨offset + byteLength u, byteLength t⟩ ∧
    read ⟨c.span.offset, t⟩ = .ok c

/-- The text is the alternatives joined by `_Or`. -/
def OrGroup.StandsIn (offset : Nat) (g : OrGroup) (s : List Char) : Prop :=
  Joined Grouping.orSeparator Clause.StandsIn offset g.alternatives s

/-- The filter is the groups joined by `_And`. -/
def Grouping.Covers (g : Grouping) (src : List Char) : Prop :=
  Joined andSeparator OrGroup.StandsIn 0 g.groups src

theorem Clause.standsIn_of_read {offset : Nat} {s : List Char} {c : Clause}
    (h : read ⟨offset, s⟩ = .ok c) : c.StandsIn offset s := by
  obtain ⟨hparts, -, hspan⟩ := read_eq_ok.mp h
  obtain ⟨v, hv, hs⟩ := Text.exists_eq_trim s
  refine ⟨s.takeWhile Text.isBlank, Text.trim s, v, hs, Text.allBlank_takeWhile s, hv, ?_,
    Text.trimmed_trim s, hspan, ?_⟩
  · -- A text without characters has no words.
    intro hnil
    obtain ⟨hword, -, hin, -⟩ := of_parts hparts
    rw [hnil] at hin
    exact hword.1 (List.infix_nil.mp hin)
  · rw [hspan, read_trim ⟨offset, s⟩, h]

theorem Clause.StandsIn.ascending {offset : Nat} {c : Clause} {s : List Char}
    (h : c.StandsIn offset s) : Ascending offset (offset + byteLength s) [c] := by
  obtain ⟨u, t, v, rfl, -, -, -, -, hspan, -⟩ := h
  refine ⟨List.pairwise_singleton _ c, fun c' hc' => ?_⟩
  rw [List.mem_singleton.mp hc', hspan, Text.byteLength_append, Text.byteLength_append]
  show offset ≤ offset + byteLength u ∧ offset + byteLength u + byteLength t ≤ _
  omega

theorem OrGroup.StandsIn.ascending {offset : Nat} {g : OrGroup} {s : List Char}
    (h : g.StandsIn offset s) : Ascending offset (offset + byteLength s) g.alternatives := by
  have hsep : 0 < byteLength Grouping.orSeparator := by decide
  have hascending : Ascending offset (offset + byteLength s)
      (g.alternatives.flatMap fun c => [c]) :=
    Joined.ascending hsep (fun _ _ _ hc => Clause.StandsIn.ascending hc) h
  rwa [List.flatMap_singleton'] at hascending

namespace Grouping

variable {g : Grouping} {src : List Char}

theorem Covers.ascending (h : g.Covers src) : Ascending 0 (byteLength src) g.clauses := by
  have hsep : 0 < byteLength andSeparator := by decide
  have hascending := Joined.ascending hsep (fun _ _ _ hg => OrGroup.StandsIn.ascending hg) h
  rwa [Nat.zero_add] at hascending

/-- The span of every clause gives the clause's own text. -/
theorem Covers.textIn? (h : g.Covers src) {c : Clause} (hc : c ∈ g.clauses) :
    ∃ t, c.span.textIn? src = some t ∧ t ≠ [] ∧ Text.Trimmed t ∧
      Clause.read ⟨c.span.offset, t⟩ = .ok c := by
  obtain ⟨group, hgroup, hc⟩ := List.mem_flatMap.mp hc
  obtain ⟨front, s, back, rfl, hs⟩ := h.exists_of_mem hgroup
  obtain ⟨front', s', back', rfl, hs'⟩ := Joined.exists_of_mem hs hc
  obtain ⟨u, t, v, rfl, -, -, hne, htrimmed, hspan, hread⟩ := hs'
  refine ⟨t, ?_, hne, htrimmed, hread⟩
  have htext := Span.textIn?_append (front ++ front' ++ u) t (v ++ back' ++ back)
  rw [hspan]
  simpa [Nat.add_assoc] using htext

/-- The pieces of a filter are joined to it, alternatives inside groups. -/
theorem joined_pieces (src : List Char) :
    Joined andSeparator (Joined orSeparator Piece.StandsIn) 0 (pieces src) src :=
  Piece.joined_split_split (by decide) (by decide) ⟨0, src⟩

theorem covers_of_readFrom {groups : List OrGroup} (h : ReadFrom (pieces src) groups) :
    Covers ⟨groups⟩ src := by
  refine (joined_pieces src).forall₂ ?_ h
  intro offset ps group s hps hread
  refine hps.forall₂ ?_ hread
  rintro offset' p c s' rfl hc
  exact Clause.standsIn_of_read hc

/-- **Spans account for every byte of the filter.** Whatever the options, a filter that has been
read is its clauses' own texts, blanks and separators, in the order of the grouping. Each span lies
in the filter, between two characters, and gives a text that alone is read as the clause; the spans
ascend and do not touch. -/
theorem covers_of_parse {options : ParseOptions} {source : String} {g : Grouping}
    (hne : source ≠ "") (h : parse options source = .ok g) :
    g.clauses ≠ [] ∧ g.Covers source.toList ∧
      (∀ c ∈ g.clauses, c.span.stop ≤ byteLength source.toList ∧
        ∃ t, c.span.textIn? source.toList = some t ∧ t ≠ [] ∧ Text.Trimmed t ∧
          Clause.read ⟨c.span.offset, t⟩ = .ok c) ∧
      g.clauses.Pairwise (fun a b => a.span.stop < b.span.offset) := by
  have hcovers : g.Covers source.toList := covers_of_readFrom (readFrom_of_parse hne h)
  obtain ⟨hpairs, hbounds⟩ := hcovers.ascending
  refine ⟨fun hnil => hne ((clauses_eq_nil_iff_of_parse h).mp hnil), hcovers, fun c hc => ?_,
    hpairs⟩
  exact ⟨(hbounds c hc).2, hcovers.textIn? hc⟩

/-- The blank behind the first clause takes three bytes. -/
theorem covers_of_parse_street :
    ∃ g, parse ⟨some 2⟩ "Street eq 'é'\u3000_Or  Age gt 5 " = .ok g ∧
      g.clauses.map Clause.span = [⟨0, 14⟩, ⟨22, 8⟩] ∧
      g.Covers "Street eq 'é'\u3000_Or  Age gt 5 ".toList := by
  have hparse : parse ⟨some 2⟩ "Street eq 'é'\u3000_Or  Age gt 5 " =
      .ok ⟨[⟨[⟨⟨["Street"]⟩, "eq", "é", ⟨0, 14⟩⟩, ⟨⟨["Age"]⟩, "gt", "5", ⟨22, 8⟩⟩]⟩]⟩ := by
    decide +kernel
  exact ⟨_, hparse, rfl, (covers_of_parse (by decide) hparse).2.1⟩

end Grouping
end RowFilter
