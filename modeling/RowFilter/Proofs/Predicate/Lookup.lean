import RowFilter.Predicate.FromText
import RowFilter.Proofs.Predicate.Comparison
import RowFilter.Proofs.Row.Resolution
import RowFilter.Proofs.Syntax.RoundTrip

/-!
# Looking up a path and filtering by it

A path can be asked about in two ways. A lookup cuts its text at the dots and resolves the segments;
a filter that compares the path with a quoted literal is first cut at separators, then at quotes and
blanks, and only then at the dots. The two ways meet at one path or at none (`read_comparingText_of_path`,
`read_comparingText_of_none`), so from there on everything is a question about one clause: the lookup
finds a field when at most the literal is wrong with the filter, and otherwise both say what is wrong
with the path.

The one thing they say differently is that a text is no path. A filter is malformed then, while a
lookup blames the empty segment, which no path that can be read has (`ne_empty_of_resolve_eq_error`).
-/

set_option autoImplicit false

namespace RowFilter

open Grouping (SeparatorFree)

/-! ## A filter without separators -/

namespace Grouping

/-- A text without separators is one piece. -/
theorem pieces_of_separatorFree {src : List Char} (h : SeparatorFree src) :
    pieces src = [[⟨0, src⟩]] := by
  have hand : Piece.split andSeparator ⟨0, src⟩ = [⟨0, src⟩] := by
    rw [Piece.split, Text.splitAround_eq_singleton h.1]
    rfl
  have hor : Piece.split orSeparator ⟨0, src⟩ = [⟨0, src⟩] := by
    rw [Piece.split, Text.splitAround_eq_singleton h.2]
    rfl
  rw [pieces, hand, List.map_singleton, hor]

/-- A filter without separators is read as one clause is. -/
theorem parse_single {src : String} (hvisible : Text.allBlank src.toList = false)
    (hfree : SeparatorFree src.toList) :
    parse {} src = (fun c => ⟨[⟨[c]⟩]⟩) <$> Clause.read ⟨0, src.toList⟩ := by
  rw [parse_eq_mapM hvisible, pieces_of_separatorFree hfree]
  simp only [List.mapM_cons, List.mapM_nil, readGroup]
  cases Clause.read ⟨0, src.toList⟩ with
  | ok c => rfl
  | error e => rfl

end Grouping

/-! ## The text of a comparison -/

/-- The text of the filter that asks for equality with a literal, in quotes. -/
def comparingText (path literal : String) : String := path ++ " eq '" ++ literal ++ "'"

namespace Clause

variable {path literal : String}

/-- The clause with the whole path in one segment, whatever the path is. -/
def unsplit (path literal : String) : Clause :=
  ⟨⟨[path]⟩, Operator.equal.token, literal, default⟩

theorem toList_path_unsplit (path literal : String) :
    (unsplit path literal).path.toString.toList = path.toList := by
  simp [unsplit, Path.toList_toString]

/-- The text is a written clause. -/
theorem toList_comparingText (path literal : String) :
    (comparingText path literal).toList = (unsplit path literal).written.toList := by
  rw [toList_written, toList_path_unsplit]
  simp [unsplit, comparingText, Operator.token, quote]

theorem comparingText_visible (path literal : String) :
    Text.allBlank (comparingText path literal).toList = false := by
  have hquote : Text.isBlank quote = false := by decide
  simp [toList_comparingText, toList_written, Text.allBlank, hquote]

theorem comparingText_free (hpath : SeparatorFree path.toList)
    (hliteral : SeparatorFree literal.toList) :
    SeparatorFree (comparingText path literal).toList := by
  have htoken : SeparatorFree Operator.equal.token.toList := by decide +kernel
  rw [toList_comparingText, separatorFree_written_iff, toList_path_unsplit]
  exact ⟨hpath, htoken, hliteral⟩

/-- The parts of the text are found again, whether there is a path among them or not. -/
theorem parts_comparingText (hpath : IsWord path.toList) :
    parts (Text.trim (comparingText path literal).toList) =
      .ok (path.toList, Operator.equal.token.toList, literal.toList) := by
  have hword : IsWord (unsplit path literal).path.toString.toList := by
    rw [toList_path_unsplit]
    exact hpath
  have hequal : IsWord Operator.equal.token.toList := by decide
  have htoken : IsWord (unsplit path literal).operator.toList := hequal
  rw [toList_comparingText, (trimmed_written hword).trim_eq, parts_written hword htoken,
    toList_path_unsplit]
  rfl

theorem read_comparingText_of_path (literal : String) (hpath : IsWord path.toList) {p : Path}
    (hread : Path.ofString? path = some p) :
    ∃ span, read ⟨0, (comparingText path literal).toList⟩ =
      .ok ⟨p, Operator.equal.token, literal, span⟩ := by
  have htext := (Path.read?_eq_some.mp hread).2.2
  refine ⟨spanOf ⟨0, (comparingText path literal).toList⟩, read_eq_ok.mpr ⟨?_, ?_, rfl⟩⟩
  · rw [parts_comparingText hpath, htext]
  · rw [htext]
    exact hread

theorem read_comparingText_of_none (literal : String) (hpath : IsWord path.toList)
    (hnone : Path.ofString? path = none) :
    ∃ text span, read ⟨0, (comparingText path literal).toList⟩ =
      .error (.malformedClause text span .emptyPathSegment) := by
  have hread : Path.read? path.toList = none := hnone
  rw [read, parts_comparingText hpath]
  simp only [hread]
  exact ⟨_, _, rfl⟩

end Clause

/-! ## What can be wrong with the comparison -/

variable {τ : Type} {Row : τ → Type} {catalog : Catalog Row} {t : τ} {path literal : String}

/-- A path is wrong at one of its segments. -/
theorem Route.mem_of_resolve_eq_error {s : Schema Row} {segments : List String} (hne : segments ≠ [])
    {blamed : String} (h : resolve catalog s segments = .error blamed) : blamed ∈ segments := by
  induction segments generalizing s with
  | nil => exact absurd rfl hne
  | cons segment later ih =>
    cases later with
    | nil =>
      unfold resolve at h
      split at h
      · split at h
        · cases h
        · cases h
          exact List.mem_cons_self
      · cases h
        exact List.mem_cons_self
    | cons next later =>
      rcases Catalog.route_eq_error.mp h with ⟨-, rfl⟩ | ⟨f, -, rfl⟩ | ⟨f, -, hrest⟩
      · exact List.mem_cons_self
      · simp
      · exact List.mem_cons_of_mem segment (ih (List.cons_ne_nil next later) hrest)

theorem Catalog.ne_empty_of_resolve_eq_error {s : Schema Row} {p : Path} (hp : p.Valid)
    {text blamed : String} (h : catalog.resolve s p = .error (.unknownField text blamed)) :
    blamed ≠ "" := by
  obtain ⟨segment, hroute, herror⟩ := resolve_eq_error.mp h
  cases herror
  have hvisible := hp.2 blamed (Route.mem_of_resolve_eq_error hp.1 hroute)
  intro hempty
  simp [hempty, Text.allBlank] at hvisible

namespace Predicate

/-- A comparison for equality has two faults to have: that of its path, and then that of its
literal. -/
theorem compile_equal_eq_error {p : Path} {span : Span} {e : CompileError} :
    compile catalog t (.comparing p .equal literal span) = .error e ↔
      catalog.resolve (catalog t) p = .error e ∨
      ∃ d, catalog.resolve (catalog t) p = .ok d ∧ Value.ofLiteral? d.kind literal = none ∧
        e = .valueCoercionFailed p.toString literal d.kind := by
  have htoken : Text.lowercase Operator.equal.token = Operator.equal.token := by decide +kernel
  rw [compile_comparing_eq_error, Catalog.resolve_eq_error]
  constructor
  · intro h
    cases h with
    | field hroute => exact Or.inl ⟨_, hroute, rfl⟩
    | literal hfield hliteral => exact Or.inr ⟨_, hfield, hliteral, rfl⟩
    | operator hfield hliteral hnone => exact absurd htoken.symm (hnone .equal)
    | text hfield hliteral hcontains hkind =>
      rw [htoken] at hcontains
      exact absurd hcontains (by decide)
  · intro h
    cases h with
    | inl hpath =>
      obtain ⟨segment, hroute, rfl⟩ := hpath
      exact .field hroute
    | inr hliteral =>
      obtain ⟨d, hfield, hnone, rfl⟩ := hliteral
      exact .literal hfield hnone

/-- A comparison for equality accepts the rows that have the literal's value at the path. -/
theorem accepts_equal_iff {q : Path} {span : Span} {p : Predicate Row t} {d : Descriptor Row}
    (compiled : compile catalog t (.comparing q .equal literal span) = .ok p)
    (hfield : catalog.resolve (catalog t) q = .ok d) (row : Row t) :
    p.accepts row = true ↔ ∃ v l, d.read ⟨t, row⟩ = some v ∧
      Value.ofLiteral? d.kind literal = some l ∧ v.equals l = true := by
  have hop : Operator.equal ≠ Operator.contains := by decide
  obtain ⟨d', l, hfield', hliteral⟩ := (exists_compile_comparing hop).mp ⟨p, compiled⟩
  obtain rfl : d' = d := Except.ok.inj (hfield'.symm.trans hfield)
  rw [accepts_comparing_iff hop hfield hliteral compiled, Test.holds]
  cases hread : d'.read ⟨t, row⟩ with
  | none => simp
  | some v => simp [hliteral, Operator.relates]

end Predicate

/-! ## Both answers -/

/-- What a lookup of the path has found and what has become of a filter that compares the path with
the literal, for rows of type `t`, say the same. -/
structure ResolvedAlike (t : τ) (path literal : String) (found : Except CompileError (Descriptor Row))
    (filtered : Except FilterError (Predicate Row t)) : Prop where
  /-- A field is found when the filter compiles, or fails at the literal. -/
  finds : (∃ d, found = .ok d) ↔ (∃ p, filtered = .ok p) ∨
    ∃ written kind, filtered = .error (.compile (.valueCoercionFailed written literal kind))
  /-- Where a field is found, no other error is left, and its kind is that of the field. -/
  refuses : ∀ d e, found = .ok d → filtered = .error e →
    e = .compile (.valueCoercionFailed path literal d.kind)
  accepts : ∀ d p, found = .ok d → filtered = .ok p → ∀ row : Row t,
    p.accepts row = true ↔ ∃ v l, d.read ⟨t, row⟩ = some v ∧
      Value.ofLiteral? d.kind literal = some l ∧ v.equals l = true
  /-- The empty segment is blamed for a text that is no path. -/
  noPath : (∃ written, found = .error (.unknownField written "")) ↔
    ∃ text span, filtered = .error (.parse (.malformedClause text span .emptyPathSegment))
  /-- Every other error of the lookup is the filter's error about the field. -/
  unknown : ∀ e, (found = .error e ∧ ∀ written, e ≠ .unknownField written "") ↔
    filtered = .error (.compile e) ∧ ∃ written segment, e = .unknownField written segment

namespace ResolvedAlike

theorem of_no_path {text : String} {span : Span} : ResolvedAlike t path literal
    (.error (.unknownField path "") : Except CompileError (Descriptor Row))
    (.error (.parse (.malformedClause text span .emptyPathSegment))) := by
  constructor <;> simp

theorem of_unknown {segment : String} (hsegment : segment ≠ "") :
    ResolvedAlike t path literal
      (.error (.unknownField path segment) : Except CompileError (Descriptor Row))
      (.error (.compile (.unknownField path segment))) := by
  constructor <;> simp [hsegment]

theorem of_literal (d : Descriptor Row) : ResolvedAlike t path literal (.ok d)
    (.error (.compile (.valueCoercionFailed path literal d.kind))) := by
  constructor <;> simp

theorem of_compiles {d : Descriptor Row} {p : Predicate Row t}
    (haccepts : ∀ row : Row t, p.accepts row = true ↔ ∃ v l, d.read ⟨t, row⟩ = some v ∧
      Value.ofLiteral? d.kind literal = some l ∧ v.equals l = true) :
    ResolvedAlike t path literal (.ok d) (.ok p) := by
  constructor
  case accepts =>
    intro d' p' hd hp
    cases hd
    cases hp
    exact haccepts
  all_goals simp

end ResolvedAlike

namespace Predicate

/-- Where the text is a path, the filter does what the lookup says of it. -/
theorem resolvedAlike_comparing {p : Path} (hp : p.Valid) (span : Span) :
    ResolvedAlike t p.toString literal (catalog.resolve (catalog t) p)
      ((compile catalog t (.comparing p .equal literal span)).mapError .compile) := by
  cases hfound : catalog.resolve (catalog t) p with
  | error e =>
    obtain ⟨segment, -, rfl⟩ := Catalog.resolve_eq_error.mp hfound
    rw [compile_equal_eq_error.mpr (Or.inl hfound)]
    exact .of_unknown (Catalog.ne_empty_of_resolve_eq_error hp hfound)
  | ok d =>
    cases hliteral : Value.ofLiteral? d.kind literal with
    | none =>
      rw [compile_equal_eq_error.mpr (Or.inr ⟨d, hfound, hliteral, rfl⟩)]
      exact .of_literal d
    | some l =>
      obtain ⟨pred, hpred⟩ : ∃ pred, compile catalog t (.comparing p .equal literal span) = .ok pred :=
        (exists_compile_comparing (by decide)).mpr ⟨d, l, hfound, hliteral⟩
      rw [hpred]
      exact .of_compiles (accepts_equal_iff hpred hfound)

/-- **A lookup and a filter resolve a path alike.** For a path without blanks, quotes and separators,
and a literal without separators, the lookup of the path and the filter that compares it with the
literal find the same field or give the same error. -/
theorem ofText_resolvedAlike (catalog : Catalog Row) (t : τ) {path literal : String}
    (hpath : Clause.IsWord path.toList) (hpathfree : SeparatorFree path.toList)
    (hliteral : SeparatorFree literal.toList) :
    ResolvedAlike t path literal (catalog.resolveText (catalog t) path)
      (ofText catalog t {} (comparingText path literal)) := by
  have hparse := Grouping.parse_single (Clause.comparingText_visible path literal)
    (Clause.comparingText_free hpathfree hliteral)
  rw [ofText, hparse, Catalog.resolveText]
  cases hread : Path.ofString? path with
  | none =>
    obtain ⟨text, span, hclause⟩ := Clause.read_comparingText_of_none literal hpath hread
    rw [hclause]
    exact .of_no_path
  | some p =>
    obtain ⟨span, hclause⟩ := Clause.read_comparingText_of_path literal hpath hread
    obtain ⟨hvalid, -, htext⟩ := Path.read?_eq_some.mp hread
    rw [hclause, ← String.toList_inj.mp htext]
    exact resolvedAlike_comparing hvalid span

/-- A nested field and a literal that is none of its kind; a path with an empty segment; and the field
again with a literal of its kind, which one of two rows has there. -/
theorem ofText_resolvedAlike_number :
    ResolvedAlike .person "address.NUMBER" "4'2"
      (People.catalog.resolveText (People.catalog .person) "address.NUMBER")
      (ofText People.catalog .person {} "address.NUMBER eq '4'2'") ∧
    ResolvedAlike .person "address." "42"
      (People.catalog.resolveText (People.catalog .person) "address.")
      (ofText People.catalog .person {} "address. eq '42'") ∧
    ∃ (d : Descriptor People.Rows) (p : Predicate People.Rows .person),
      People.catalog.resolveText (People.catalog .person) "address.NUMBER" = .ok d ∧
      ofText People.catalog .person {} "address.NUMBER eq '7'" = .ok p ∧
      p.accepts People.ann = true ∧ p.accepts People.ben = false ∧
      (∃ v l, d.read ⟨.person, People.ann⟩ = some v ∧ Value.ofLiteral? d.kind "7" = some l ∧
        v.equals l = true) ∧
      ¬ ∃ v l, d.read ⟨.person, People.ben⟩ = some v ∧ Value.ofLiteral? d.kind "7" = some l ∧
        v.equals l = true := by
  refine ⟨ofText_resolvedAlike People.catalog .person (by decide +kernel) (by decide +kernel)
    (by decide +kernel), ofText_resolvedAlike People.catalog .person (by decide +kernel)
    (by decide +kernel) (by decide +kernel), ?_⟩
  have halike : ResolvedAlike .person "address.NUMBER" "7"
      (People.catalog.resolveText (People.catalog .person) "address.NUMBER")
      (ofText People.catalog .person {} "address.NUMBER eq '7'") :=
    ofText_resolvedAlike People.catalog .person (by decide +kernel) (by decide +kernel)
      (by decide +kernel)
  have hrun : (ofText People.catalog .person {} "address.NUMBER eq '7'" >>= fun p =>
      .ok (p.accepts People.ann, p.accepts People.ben)) = .ok (true, false) := by
    decide +kernel
  obtain ⟨p, hp, hboth⟩ := bind_eq_ok.mp hrun
  obtain ⟨hann, hben⟩ := Prod.mk.inj (Except.ok.inj hboth)
  obtain ⟨d, hd⟩ := halike.finds.mpr (Or.inl ⟨p, hp⟩)
  have haccepts := halike.accepts d p hd hp
  refine ⟨d, p, hd, hp, hann, hben, (haccepts People.ann).mp hann, fun hholds => ?_⟩
  exact absurd ((haccepts People.ben).mpr hholds) (by simp [hben])

end Predicate
end RowFilter
