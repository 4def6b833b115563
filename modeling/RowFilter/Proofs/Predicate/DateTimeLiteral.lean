import RowFilter.Proofs.Predicate.Refusal
import RowFilter.Proofs.Value.DateTimeWriting

/-!
# Filters on dates and times

A clause on a field of a date and a time is taken with every literal that is the writing of a moment,
and refused with every other. The three layouts are the writings that have all their digits, no signs
and no blanks but the one that a layout has; they are some of the literals that are taken, and not
all of them.
-/

set_option autoImplicit false

namespace RowFilter

open DateTime (HasLayout Writing)

variable {τ : Type} {Row : τ → Type}

namespace Value

theorem ofLiteral?_dateTime_eq_some {s : String} {v : Value} :
    ofLiteral? .dateTime s = some v ↔
      ∃ w : Writing, w.text = s ∧ w.moment.Valid ∧ v = .dateTime w.moment := by
  have hread : ofLiteral? .dateTime s = (DateTime.read? s.toList).map .dateTime := rfl
  rw [hread, Option.map_eq_some_iff]
  constructor
  · rintro ⟨m, hm, rfl⟩
    obtain ⟨w, hchars, hvalid, rfl⟩ := DateTime.read?_eq_some.mp hm
    exact ⟨w, by rw [Writing.text, ← hchars, String.ofList_toList], hvalid, rfl⟩
  · rintro ⟨w, rfl, hvalid, rfl⟩
    exact ⟨w.moment, DateTime.read?_eq_some.mpr ⟨w, String.toList_ofList, hvalid, rfl⟩, rfl⟩

theorem ofLiteral?_dateTime_eq_none {s : String} :
    ofLiteral? .dateTime s = none ↔ ∀ w : Writing, w.text = s → ¬ w.moment.Valid := by
  rw [Option.eq_none_iff_forall_ne_some]
  constructor
  · exact fun h w hw hvalid => h _ (ofLiteral?_dateTime_eq_some.mpr ⟨w, hw, hvalid, rfl⟩)
  · intro h v hv
    obtain ⟨w, hw, hvalid, -⟩ := ofLiteral?_dateTime_eq_some.mp hv
    exact h w hw hvalid

end Value

namespace Predicate

/-- A filter is refused for a literal only if the literal has no value of the kind. -/
theorem ofLiteral?_eq_none_of_compile {catalog : Catalog Row} {t : τ} {g : Grouping}
    {path literal : String} {kind : Kind}
    (h : compile catalog t g = .error (.valueCoercionFailed path literal kind)) :
    Value.ofLiteral? kind literal = none := by
  obtain ⟨-, c, -, -, -, hc⟩ := mapM_eq_error.mp (compile_eq_error.mp h)
  cases Clause.compileClause_eq_error.mp hc with
  | literal _ hliteral => exact hliteral

/-- **Date-time literals are read as far as they can be written.** The three formats are tried in
order. A literal has a value exactly if it is the writing of a moment that there is, and then this
moment is its value. It has one writing at most, and this is a full one exactly if the literal has one
of the layouts. The first clause of a filter that does not fit is refused for its literal, if it is on
a field of a date and a time, exactly if the literal is no such writing. -/
theorem dateTimes_read_as_written (catalog : Catalog Row) (t : τ) (g : Grouping) :
    (∀ s : String,
      Value.ofLiteral? .dateTime s = (DateTime.tryFormats? s.toList).map .dateTime) ∧
    (∀ (s : String) (v : Value), Value.ofLiteral? .dateTime s = some v ↔
      ∃ w : Writing, w.text = s ∧ w.moment.Valid ∧ v = .dateTime w.moment) ∧
    (∀ w w' : Writing, w.text = w'.text → w = w') ∧
    (∀ w : Writing, HasLayout w.text ↔ w.Full) ∧
    ∀ before c after d, g.clauses = before ++ c :: after →
      (∀ b ∈ before, b.Fits catalog (catalog t)) →
      catalog.resolve (catalog t) c.path = .ok d → d.kind = .dateTime →
      (compile catalog t g =
          .error (.valueCoercionFailed c.path.toString c.literal .dateTime) ↔
        ∀ w : Writing, w.text = c.literal → ¬ w.moment.Valid) := by
  have hunique : ∀ w w' : Writing, w.text = w'.text → w = w' :=
    fun w w' h => Writing.unique (String.ofList_injective h)
  refine ⟨fun s => ?_, fun s v => Value.ofLiteral?_dateTime_eq_some, hunique, fun w => ?_, ?_⟩
  · rw [← DateTime.read?_eq_tryFormats?]
    rfl
  · rw [DateTime.hasLayout_iff]
    constructor
    · rintro ⟨w', hfull, htext⟩
      rwa [← hunique w' w htext]
    · exact fun hfull => ⟨w, hfull, rfl⟩
  · intro before c after d hclauses hbefore hfield hkind
    rw [← Value.ofLiteral?_dateTime_eq_none]
    refine ⟨ofLiteral?_eq_none_of_compile, fun hliteral => ?_⟩
    have hrefused : c.RefusedWith catalog (catalog t)
        (.valueCoercionFailed c.path.toString c.literal d.kind) :=
      .literal hfield (by rw [hkind]; exact hliteral)
    rw [hkind] at hrefused
    exact compile_eq_error.mpr (mapM_eq_error.mpr ⟨before, c, after, hclauses,
      fun b hb => Clause.exists_compileClause_iff.mpr (hbefore b hb),
      Clause.compileClause_eq_error.mpr hrefused⟩)

/-- Rows that are a moment and nothing else. -/
def moments : Catalog fun _ : Unit => DateTime :=
  fun t => ⟨"Entry", ((Schema.Builder.empty t "Entry").field "At" id).fields⟩

def shortNumbers : Clause := ⟨⟨["At"]⟩, "ge", "21-03-14", default⟩

def slashes : Clause := ⟨⟨["At"]⟩, "lt", "14/03/2021", default⟩

/-- The clause with the short numbers fits, and the one with the slashes is the first that does not. -/
theorem dateTimes_read_as_written_slashes :
    shortNumbers.Fits moments (moments ()) ∧
    ∀ w : Writing, w.text = slashes.literal → ¬ w.moment.Valid := by
  have hfits : shortNumbers.Fits moments (moments ()) :=
    ⟨⟨⟨["At"]⟩, _⟩, .dateTime ⟨21, 3, 14, 0, 0, 0, 0⟩, .greaterOrEqual, rfl, rfl, by decide +kernel,
      by decide +kernel, nofun⟩
  have herror : (fun _ => ()) <$> compile moments () ⟨[⟨[shortNumbers, slashes]⟩]⟩ =
      .error (.valueCoercionFailed "At" "14/03/2021" .dateTime) := by
    decide +kernel
  obtain ⟨-, -, -, -, hrefused⟩ := dateTimes_read_as_written moments () ⟨[⟨[shortNumbers, slashes]⟩]⟩
  exact ⟨hfits, (hrefused [shortNumbers] slashes [] _ rfl (by simpa using hfits) rfl rfl).mp
    (map_eq_error.mp herror)⟩

/-- A year of two digits is in none of the layouts, and is read all the same. -/
theorem not_only_layouts_read :
    Value.ofLiteral? .dateTime "21-03-14" = some (.dateTime ⟨21, 3, 14, 0, 0, 0, 0⟩) ∧
      ¬ HasLayout "21-03-14" := by
  refine ⟨by decide +kernel, fun h => ?_⟩
  have hlength := h.length_le
  simp at hlength

end Predicate
end RowFilter
