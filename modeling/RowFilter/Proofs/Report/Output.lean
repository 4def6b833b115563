import RowFilter.Proofs.Json.Pretty
import RowFilter.Proofs.Json.RoundTrip
import RowFilter.Proofs.Report.Caret

/-!
# The grouping on the output

A check that is asked for JSON prints the form of the grouping that it has read. Three steps lead
back from the printed text to the grouping: every form that the parts of a filter are written in is
plain, so its text is read back as that form (`Json.read?_pretty`); a grouping that has been read
from a filter is storable (`Grouping.storable_of_parse`); and the form of a storable grouping is
read back as the grouping (`Grouping.lawful`).
-/

set_option autoImplicit false

namespace RowFilter

open Json (Plain read?)
open JsonForm (IsCount)
open Text (byteLength)

/-! ## Plain forms -/

theorem JsonForm.plain_list {α : Type} [JsonForm α] (h : ∀ a : α, (encode a).Plain) (as : List α) :
    (encode as).Plain := by
  apply Plain.arr
  intro x hx
  obtain ⟨a, -, rfl⟩ := List.mem_map.mp hx
  exact h a

open JsonForm (plain_list)

theorem Span.plain (s : Span) : (encode s).Plain := by
  apply Plain.obj (by simp)
  simp only [List.forall_mem_cons]
  exact ⟨Plain.int _, Plain.int _, by simp⟩

theorem Path.plain (p : Path) : (encode p).Plain := plain_list Plain.str p.segments

theorem Clause.plain (c : Clause) : (encode c).Plain := by
  apply Plain.obj (by simp)
  simp only [List.forall_mem_cons]
  exact ⟨c.path.plain, Plain.str _, Plain.str _, c.span.plain, by simp⟩

theorem OrGroup.plain (g : OrGroup) : (encode g).Plain := by
  apply Plain.obj (by simp)
  simp only [List.forall_mem_singleton]
  exact plain_list Clause.plain g.alternatives

theorem Grouping.plain (g : Grouping) : (encode g).Plain := by
  apply Plain.obj (by simp)
  simp only [List.forall_mem_singleton]
  exact plain_list OrGroup.plain g.groups

/-- The text of a grouping that has been read from a filter is read back as that grouping. -/
theorem Grouping.decode_read_pretty {options : ParseOptions} {src : String} {g : Grouping}
    (hlength : IsCount (byteLength src.toList)) (h : parse options src = .ok g) :
    (read? (encode g).pretty).bind decode? = some g := by
  rw [Json.read?_pretty g.plain]
  exact lawful.decode_encode g (storable_of_parse hlength h)

namespace Check

theorem stdout_json {limit : Option Nat} {src : String} {g : Grouping}
    (h : Grouping.parse ⟨limit⟩ src = .ok g) :
    (run ⟨true, false, limit, false⟩ src).stdout =
      (encode g).pretty ++ "\n" ++ "Filter is valid" ++ "\n" := by
  rw [run_of_ok ⟨true, false, limit, false⟩ h]
  simp [successReport, Style.apply, String.append_assoc]

/-- **The JSON on the output is a faithful copy of the grouping.** A check that is asked for JSON,
and that can read the filter, prints a text, a line end and the line of success. The text is JSON,
and what it is read back as is the grouping, with its spans. So two filters, read under any limits,
that make the check print the same have the same grouping. No filter is longer than a machine can
count. -/
theorem run_prints_grouping (limit : Option Nat) (src : String) (g : Grouping)
    (hlength : IsCount (byteLength src.toList)) (h : Grouping.parse ⟨limit⟩ src = .ok g) :
    (∃ text, (run ⟨true, false, limit, false⟩ src).stdout =
        text ++ "\n" ++ "Filter is valid" ++ "\n" ∧
      (read? text).bind decode? = some g) ∧
    ∀ (limit' : Option Nat) (src' : String) (g' : Grouping),
      IsCount (byteLength src'.toList) → Grouping.parse ⟨limit'⟩ src' = .ok g' →
      (run ⟨true, false, limit', false⟩ src').stdout =
        (run ⟨true, false, limit, false⟩ src).stdout → g' = g := by
  have hread := Grouping.decode_read_pretty hlength h
  refine ⟨⟨(encode g).pretty, stdout_json h, hread⟩, ?_⟩
  intro limit' src' g' hlength' h' hstdout
  -- What stands behind the text is the same in both outputs.
  have htext : (encode g').pretty = (encode g).pretty := by
    rw [stdout_json h', stdout_json h] at hstdout
    simpa only [String.append_left_inj] using hstdout
  have hread' := Grouping.decode_read_pretty hlength' h'
  rw [htext, hread] at hread'
  exact (Option.some_inj.mp hread').symm

/-- A quote, a backslash, a line end, a control character and letters that are not ASCII, all in a
filter of one clause. -/
def oddities : Grouping := ⟨[⟨[⟨⟨["Ort", "Straße"]⟩, "eq", "a\"b\\\n\x01ü", ⟨0, 25⟩⟩]⟩]⟩

/-- The filter without clauses prints an array that has no items. The last two filters, of which one
has quotes and the other has more blanks, print the same. -/
theorem run_prints_grouping_oddities :
    (∃ text, (run ⟨true, false, some 1, false⟩ "Ort.Straße eq 'a\"b\\\n\x01ü'").stdout =
        text ++ "\n" ++ "Filter is valid" ++ "\n" ∧
      (read? text).bind decode? = some oddities) ∧
    (∃ text, (run ⟨true, false, none, false⟩ "").stdout =
        text ++ "\n" ++ "Filter is valid" ++ "\n" ∧
      (read? text).bind decode? = some (⟨[]⟩ : Grouping)) ∧
    (run ⟨true, false, some 7, false⟩ "a  eq  b").stdout =
      (run ⟨true, false, none, false⟩ "a eq 'b'").stdout ∧
    Grouping.parse ⟨some 7⟩ "a  eq  b" = Grouping.parse ⟨none⟩ "a eq 'b'" := by
  have hoddities : Grouping.parse ⟨some 1⟩ "Ort.Straße eq 'a\"b\\\n\x01ü'" = .ok oddities := by
    decide +kernel
  have hempty : Grouping.parse ⟨none⟩ "" = .ok ⟨[]⟩ := by
    decide +kernel
  have hquoted : Grouping.parse ⟨none⟩ "a eq 'b'" =
      .ok ⟨[⟨[⟨⟨["a"]⟩, "eq", "b", ⟨0, 8⟩⟩]⟩]⟩ := by
    decide +kernel
  have hblanks : Grouping.parse ⟨some 7⟩ "a  eq  b" =
      .ok ⟨[⟨[⟨⟨["a"]⟩, "eq", "b", ⟨0, 8⟩⟩]⟩]⟩ := by
    decide +kernel
  have hstdout : (run ⟨true, false, some 7, false⟩ "a  eq  b").stdout =
      (run ⟨true, false, none, false⟩ "a eq 'b'").stdout := by
    rw [stdout_json hblanks, stdout_json hquoted]
  refine ⟨(run_prints_grouping _ _ _ (by decide +kernel) hoddities).1,
    (run_prints_grouping _ _ _ (by decide +kernel) hempty).1, hstdout, ?_⟩
  rw [hblanks, hquoted, (run_prints_grouping none "a eq 'b'" _ (by decide +kernel) hquoted).2
    (some 7) "a  eq  b" _ (by decide +kernel) hblanks hstdout]

end Check
end RowFilter
