import RowFilter.Proofs.Traversal
import RowFilter.Syntax.Grouping

/-!
# What reading a filter reads

A filter that can be read is the grouping of the clauses of its pieces: one group for each piece
between separators of groups, one alternative for each piece inside it. `Grouping.ReadFrom` says
so with no count and no limit in it, because a limit decides whether there is a grouping and never
which one it is.
-/

set_option autoImplicit false

namespace RowFilter

/-- The clauses of the grouping are read from the pieces one by one. -/
def Grouping.ReadFrom (pieces : List (List Piece)) (groups : List OrGroup) : Prop :=
  List.Forall₂
    (fun ps group => List.Forall₂ (fun p c => Clause.read p = .ok c) ps group.alternatives)
    pieces groups

/-! ## Pieces -/

namespace Piece

theorem map_text_locate (gap offset : Nat) (texts : List (List Char)) :
    (locate gap offset texts).map Piece.text = texts := by
  induction texts generalizing offset with
  | nil => rfl
  | cons text later ih => rw [locate, List.map_cons, ih]

/-- Offsets aside, a piece is split as its text is. -/
theorem map_text_split (sep : List Char) (p : Piece) :
    (p.split sep).map Piece.text = Text.splitAround sep p.text :=
  map_text_locate _ _ _

theorem forall₂_split_iff {α : Type} {R : α → List Char → Prop} {xs : List α} {sep : List Char}
    {p : Piece} : List.Forall₂ (fun x q => R x q.text) xs (p.split sep) ↔
      List.Forall₂ R xs (Text.splitAround sep p.text) := by
  rw [← map_text_split, List.forall₂_map_right_iff]

theorem split_ne_nil (sep : List Char) (p : Piece) : p.split sep ≠ [] := by
  intro h
  have htexts := map_text_split sep p
  rw [h] at htexts
  exact Text.splitAround_ne_nil sep p.text htexts.symm

end Piece

namespace Grouping

theorem pieces_ne_nil (src : List Char) : pieces src ≠ [] := by
  rw [pieces, ne_eq, List.map_eq_nil_iff]
  exact Piece.split_ne_nil _ _

theorem ne_nil_of_mem_pieces {src : List Char} {ps : List Piece} (h : ps ∈ pieces src) :
    ps ≠ [] := by
  obtain ⟨p, -, rfl⟩ := List.mem_map.mp h
  exact Piece.split_ne_nil _ _

/-! ## A reading that succeeds -/

theorem readAlternatives_eq_ok {limit : Option Nat} {count total : Nat} {ps : List Piece}
    {cs : List Clause} (h : readAlternatives limit count ps = .ok (cs, total)) :
    List.Forall₂ (fun p c => Clause.read p = .ok c) ps cs := by
  induction ps generalizing count cs total with
  | nil =>
    cases h
    exact .nil
  | cons p ps ih =>
    rw [readAlternatives] at h
    obtain ⟨c, hc, h⟩ := bind_eq_ok.mp h
    obtain ⟨-, -, h⟩ := bind_eq_ok.mp h
    obtain ⟨⟨cs', total'⟩, hcs, h⟩ := bind_eq_ok.mp h
    cases h
    exact .cons hc (ih hcs)

theorem readGroups_eq_ok {limit : Option Nat} {count total : Nat} {pieces : List (List Piece)}
    {groups : List OrGroup} (h : readGroups limit count pieces = .ok (groups, total)) :
    ReadFrom pieces groups := by
  induction pieces generalizing count groups total with
  | nil =>
    cases h
    exact .nil
  | cons ps pieces ih =>
    rw [readGroups] at h
    obtain ⟨⟨cs, subtotal⟩, hcs, h⟩ := bind_eq_ok.mp h
    obtain ⟨⟨groups', total'⟩, hgroups, h⟩ := bind_eq_ok.mp h
    cases h
    exact .cons (readAlternatives_eq_ok hcs) (ih hgroups)

theorem isEmpty_toList {src : String} (hne : src ≠ "") : src.toList.isEmpty = false := by
  rw [List.isEmpty_eq_false_iff, ne_eq, String.toList_eq_nil_iff]
  exact hne

theorem ne_empty_of_visible {src : String} (hvisible : Text.allBlank src.toList = false) :
    src ≠ "" := by
  intro hempty
  rw [hempty] at hvisible
  cases hvisible

/-- Whatever the options, the grouping of a text is read from the pieces of the text. -/
theorem readFrom_of_parse {options : ParseOptions} {src : String} {g : Grouping} (hne : src ≠ "")
    (h : parse options src = .ok g) : ReadFrom (pieces src.toList) g.groups := by
  rw [parse, read, isEmpty_toList hne] at h
  by_cases hblank : Text.allBlank src.toList = true
  · simp [hblank] at h
  · rw [if_neg Bool.false_ne_true, if_neg hblank] at h
    obtain ⟨⟨groups, total⟩, hgroups, h⟩ := bind_eq_ok.mp h
    by_cases htotal : total = 0
    · simp [htotal] at h
    · simp only [if_neg htotal] at h
      cases h
      exact readGroups_eq_ok hgroups

/-! ## A reading without a limit

The count stops nothing then, and what is left of the two loops is one traversal inside another. -/

theorem readAlternatives_none (count : Nat) (ps : List Piece) :
    readAlternatives none count ps = (·, count + ps.length) <$> ps.mapM Clause.read := by
  induction ps generalizing count with
  | nil => rfl
  | cons p ps ih =>
    have hcount : count + 1 + ps.length = count + (ps.length + 1) := by omega
    rw [readAlternatives, List.mapM_cons, List.length_cons]
    cases Clause.read p with
    | error e => rfl
    | ok c =>
      simp only [checkLimit, ih, hcount]
      cases ps.mapM Clause.read <;> rfl

/-- The group of the clauses of some pieces. -/
def readGroup (ps : List Piece) : Except ParseError OrGroup := OrGroup.mk <$> ps.mapM Clause.read

theorem readGroup_eq_ok {ps : List Piece} {group : OrGroup} :
    readGroup ps = .ok group ↔
      List.Forall₂ (fun p c => Clause.read p = .ok c) ps group.alternatives := by
  rw [← mapM_eq_ok, readGroup]
  obtain ⟨cs⟩ := group
  cases ps.mapM Clause.read with
  | error e =>
    constructor <;> intro h <;> cases h
  | ok cs' =>
    constructor <;> intro h <;> cases h <;> rfl

theorem readGroups_none (count : Nat) (pieces : List (List Piece)) :
    readGroups none count pieces =
      (·, count + pieces.flatten.length) <$> pieces.mapM readGroup := by
  induction pieces generalizing count with
  | nil => rfl
  | cons ps pieces ih =>
    have hcount : count + ps.length + pieces.flatten.length =
        count + (ps :: pieces).flatten.length := by
      rw [List.flatten_cons, List.length_append, Nat.add_assoc]
    rw [readGroups, List.mapM_cons, readAlternatives_none, readGroup]
    cases ps.mapM Clause.read with
    | error e => rfl
    | ok cs =>
      show (readGroups none (count + ps.length) pieces >>= _) = _
      rw [ih, hcount]
      cases pieces.mapM readGroup <;> rfl

theorem flatten_pieces_ne_nil (src : List Char) : (pieces src).flatten ≠ [] := by
  obtain ⟨ps, rest, hcons⟩ := List.exists_cons_of_ne_nil (pieces_ne_nil src)
  have hps : ps ≠ [] := ne_nil_of_mem_pieces (hcons ▸ List.mem_cons_self)
  rw [hcons, List.flatten_cons]
  exact List.append_ne_nil_of_left_ne_nil hps _

/-- There always is a clause to count. -/
theorem readGroups_total_ne_zero {src : List Char} {groups : List OrGroup} {total : Nat}
    (h : readGroups none 0 (pieces src) = .ok (groups, total)) : total ≠ 0 := by
  rw [readGroups_none, Nat.zero_add] at h
  cases hgroups : (pieces src).mapM readGroup with
  | error e =>
    rw [hgroups] at h
    cases h
  | ok groups' =>
    rw [hgroups] at h
    cases h
    rw [ne_eq, List.length_eq_zero_iff]
    exact flatten_pieces_ne_nil src

/-- Without a limit a text that is not blank is read by reading its pieces. The check behind the
loop refuses nothing, because there always is a piece. -/
theorem parse_eq_mapM {src : String} (hvisible : Text.allBlank src.toList = false) :
    parse {} src = Grouping.mk <$> (pieces src.toList).mapM readGroup := by
  have hempty := isEmpty_toList (ne_empty_of_visible hvisible)
  have hread := readGroups_none 0 (pieces src.toList)
  rw [parse, read, hempty, hvisible, if_neg Bool.false_ne_true, if_neg Bool.false_ne_true]
  cases hgroups : (pieces src.toList).mapM readGroup with
  | error e =>
    rw [hgroups] at hread
    rw [hread]
    rfl
  | ok groups =>
    rw [hgroups] at hread
    have htotal := readGroups_total_ne_zero hread
    rw [hread]
    show (if 0 + (pieces src.toList).flatten.length = 0 then .error .emptyExpression
      else .ok ⟨groups⟩) = Except.ok (Grouping.mk groups)
    rw [if_neg htotal]

theorem parse_of_readFrom {src : String} {groups : List OrGroup}
    (hvisible : Text.allBlank src.toList = false) (h : ReadFrom (pieces src.toList) groups) :
    parse {} src = .ok ⟨groups⟩ := by
  have hgroups : (pieces src.toList).mapM readGroup = .ok groups :=
    mapM_eq_ok.mpr (h.imp fun ps group hps => readGroup_eq_ok.mpr hps)
  rw [parse_eq_mapM hvisible, hgroups]
  rfl

/-- The groups do not matter for an error: it is that of the first piece which is refused. -/
theorem parse_eq_error {src : String} (hvisible : Text.allBlank src.toList = false)
    {e : ParseError} :
    parse {} src = .error e ↔ (pieces src.toList).flatten.mapM Clause.read = .error e := by
  have hgroups : (pieces src.toList).mapM readGroup = .error e ↔
      ((pieces src.toList).flatMap fun ps => ps).mapM Clause.read = .error e :=
    mapM_groups_eq_error
  rw [parse_eq_mapM hvisible, map_eq_error, hgroups, List.flatMap_id']

theorem exists_parse_eq_ok {src : String} (hvisible : Text.allBlank src.toList = false) :
    (∃ g, parse {} src = .ok g) ↔ ∀ p ∈ (pieces src.toList).flatten, ∃ c, Clause.read p = .ok c := by
  rw [← exists_mapM_eq_ok]
  exact exists_eq_ok_congr fun e => parse_eq_error hvisible

theorem parse_blank {options : ParseOptions} {src : String} (hne : src ≠ "")
    (hblank : Text.allBlank src.toList = true) : parse options src = .error .emptyExpression := by
  rw [parse, read, isEmpty_toList hne, hblank]
  rfl

/-- A text that is malformed is not blank. -/
theorem visible_of_malformed {options : ParseOptions} {src text : String} {span : Span}
    {reason : ClauseDefect} (h : parse options src = .error (.malformedClause text span reason)) :
    Text.allBlank src.toList = false := by
  by_contra hblank
  by_cases hempty : src = ""
  · rw [hempty] at h
    cases h
  · rw [parse_blank hempty (Bool.not_eq_false _ ▸ hblank)] at h
    cases h

/-! ## What has been read -/

theorem alternatives_ne_nil_of_parse {options : ParseOptions} {src : String} {g : Grouping}
    (hne : src ≠ "") (h : parse options src = .ok g) :
    g.groups ≠ [] ∧ ∀ group ∈ g.groups, group.alternatives ≠ [] := by
  have hread := readFrom_of_parse hne h
  refine ⟨fun hnil => pieces_ne_nil _ ((eq_nil_iff_of_forall₂ hread).mpr hnil), ?_⟩
  intro group hgroup
  obtain ⟨ps, hps, hcs⟩ := exists_of_mem_forall₂ hread.flip hgroup
  exact fun hnil => ne_nil_of_mem_pieces hps ((eq_nil_iff_of_forall₂ hcs).mpr hnil)

/-- Only the empty text is read as a grouping without clauses. -/
theorem clauses_eq_nil_iff_of_parse {options : ParseOptions} {src : String} {g : Grouping}
    (h : parse options src = .ok g) : g.clauses = [] ↔ src = "" := by
  constructor
  · intro hnone
    by_contra hne
    obtain ⟨hgroups, halternatives⟩ := alternatives_ne_nil_of_parse hne h
    obtain ⟨group, groups, hcons⟩ := List.exists_cons_of_ne_nil hgroups
    have hgroup : group ∈ g.groups := by simp [hcons]
    exact halternatives group hgroup (List.flatMap_eq_nil_iff.mp hnone group hgroup)
  · rintro rfl
    cases h
    rfl

end Grouping
end RowFilter
