import RowFilter.Proofs.Predicate.Acceptance
import RowFilter.Proofs.Predicate.Agreement
import RowFilter.Proofs.Syntax.WellFormed
import RowFilter.Proofs.Text.Lookalike

/-!
# Tokens have no look-alikes

An operator is found by the lower case of its token in full Unicode, and still nothing but two ASCII
letters finds one (`ofToken?_eq_some_iff_spells`). The only letter outside ASCII that could slip in
is the Kelvin sign, which stands for a `k`, and no token has a `k`.

For the same reason it does not matter which spelling a clause has. With the token itself in its
place the clause is compiled to the same comparison (`compileClause_withToken`), and that is the
spelling in which the comparison is shown. So what is shown can be read again, as the operator it
was.
-/

set_option autoImplicit false

namespace RowFilter

/-! ## The spellings of a token -/

namespace Operator

/-- The text is two ASCII letters, and up to their case it is the token. -/
structure Spells (op : Operator) (s : String) : Prop where
  letters : ∃ a b, s.toList = [a, b] ∧ a.isAlpha = true ∧ b.isAlpha = true
  token : Text.asciiLower s.toList = Text.asciiLower op.token.toList

/-- A token is two small letters, and none of them is the one that a Kelvin sign stands for. -/
theorem letters_token (op : Operator) : ∃ a b, op.token.toList = [a, b] ∧
    (a.isLower = true ∧ a ≠ 'k') ∧ b.isLower = true ∧ b ≠ 'k' := by
  cases op <;> exact ⟨_, _, rfl, by decide, by decide⟩

theorem isAlpha_of_toLower {c : Char} (hc : c.toNat < 0x80) (h : c.toLower.isLower = true) :
    c.isAlpha = true :=
  Text.of_ascii (P := fun c => c.toLower.isLower = true → c.isAlpha = true) (by decide +kernel) hc h

theorem isAlpha_of_isLower {c : Char} (h : c.isLower = true) : c.isAlpha = true :=
  Bool.or_eq_true_iff.mpr (Or.inr h)

theorem toNat_lt_of_isAlpha {c : Char} (h : c.isAlpha = true) : c.toNat < 0x80 := by
  have hle : c.val ≤ 'z'.val := by
    rcases Bool.or_eq_true_iff.mp h with hupper | hlower
    · exact UInt32.le_trans (of_decide_eq_true hupper).2 (by decide)
    · exact of_decide_eq_true (Bool.and_eq_true_iff.mp hlower).2
  exact Nat.lt_of_le_of_lt (UInt32.le_iff_toNat_le.mp hle) (by decide)

theorem asciiLower_token (op : Operator) : Text.asciiLower op.token.toList = op.token.toList := by
  cases op <;> decide

theorem lowercase_eq_token {op : Operator} {s : String} :
    Text.lowercase s = op.token ↔ Text.lower s.toList = op.token.toList := by
  rw [← String.toList_inj, Text.lowercase, String.toList_ofList]

/-- **A text names an operator exactly when it spells its token.** -/
theorem ofToken?_eq_some_iff_spells {s : String} {op : Operator} :
    ofToken? s = some op ↔ op.Spells s := by
  obtain ⟨a, b, htoken, ⟨ha, hak⟩, hb, hbk⟩ := op.letters_token
  have hascii : ∀ d ∈ op.token.toList, d.toNat < 0x80 := by
    intro d hd
    apply toNat_lt_of_isAlpha
    rw [htoken] at hd
    rcases List.mem_pair.mp hd with rfl | rfl
    · exact isAlpha_of_isLower ha
    · exact isAlpha_of_isLower hb
  have hk : 'k' ∉ op.token.toList := by simp [htoken, hak.symm, hbk.symm]
  rw [ofToken?_eq_some, eq_comm, lowercase_eq_token, Text.lower_eq_ascii_iff hascii hk]
  constructor
  · rintro ⟨hs, hlower⟩
    refine ⟨?_, by rw [hlower, asciiLower_token]⟩
    rw [htoken, Text.asciiLower] at hlower
    obtain ⟨c, r, hcr, hc, hr⟩ := List.map_eq_cons_iff.mp hlower
    obtain ⟨d, r', rfl, hd, hr'⟩ := List.map_eq_cons_iff.mp hr
    rw [List.map_eq_nil_iff.mp hr'] at hcr
    simp only [hcr, List.forall_mem_cons] at hs
    exact ⟨c, d, hcr, isAlpha_of_toLower hs.1 (hc ▸ ha), isAlpha_of_toLower hs.2.1 (hd ▸ hb)⟩
  · rintro ⟨⟨c, d, hcd, hc, hd⟩, hlower⟩
    rw [asciiLower_token] at hlower
    refine ⟨?_, hlower⟩
    simp [hcd, toNat_lt_of_isAlpha hc, toNat_lt_of_isAlpha hd]

/-- A text with a character outside ASCII names no operator. -/
theorem ofToken?_eq_none_of_not_ascii {s : String} {c : Char} (hc : c ∈ s.toList)
    (hlarge : 0x80 ≤ c.toNat) : ofToken? s = none := by
  rw [Option.eq_none_iff_forall_ne_some]
  intro op hop
  obtain ⟨a, b, hab, ha, hb⟩ := (ofToken?_eq_some_iff_spells.mp hop).letters
  rw [hab] at hc
  rcases List.mem_pair.mp hc with rfl | rfl
  · exact absurd (toNat_lt_of_isAlpha ha) (Nat.not_lt.mpr hlarge)
  · exact absurd (toNat_lt_of_isAlpha hb) (Nat.not_lt.mpr hlarge)

/-- A token can be a part of a clause. -/
theorem isWord_token (op : Operator) : Clause.IsWord op.token.toList := by
  cases op <;> decide

end Operator

/-! ## Clauses with the token itself -/

/-- The clause with the token of its operator in place of how it was written. -/
def Clause.withToken (c : Clause) : Clause :=
  match c.operator? with
  | some op => { c with operator := op.token }
  | none => c

def Grouping.withTokens (g : Grouping) : Grouping :=
  ⟨g.groups.map fun group => ⟨group.alternatives.map Clause.withToken⟩⟩

namespace Clause

variable {c : Clause} {op : Operator} {k : Comparison}

theorem withToken_of_some (h : c.operator? = some op) :
    c.withToken = { c with operator := op.token } := by
  rw [withToken, h]

theorem withToken_of_none (h : c.operator? = none) : c.withToken = c := by
  rw [withToken, h]

@[simp]
theorem operator?_withToken (c : Clause) : c.withToken.operator? = c.operator? := by
  cases h : c.operator? with
  | none => rw [withToken_of_none h, h]
  | some op =>
    rw [withToken_of_some h]
    exact Operator.ofToken?_token op

/-- A comparison is shown as its clause is written with the token itself. -/
theorem ShownAs.toString_eq (h : c.ShownAs k) : k.toString = c.withToken.written := by
  rw [withToken_of_some h.operator, Comparison.toString, h.path, h.literal]
  rfl

/-- A comparison that shows a clause with a plain path is read as its operator again. -/
theorem ShownAs.read_toString (h : c.ShownAs k) (hpath : c.path.Plain) :
    ∃ d, read ⟨0, k.toString.toList⟩ = .ok d ∧ d.path = k.path ∧ d.literal = k.literal ∧
      d.operator? = some k.operator := by
  have hplain : c.withToken.path.Plain := by
    rw [withToken_of_some h.operator]
    exact hpath
  have hword : IsWord c.withToken.operator.toList := by
    rw [withToken_of_some h.operator]
    exact k.operator.isWord_token
  have hread := read_written (p := ⟨0, k.toString.toList⟩) (u := []) (v := []) hplain hword rfl rfl
    (by rw [h.toString_eq, List.nil_append, List.append_nil])
  refine ⟨_, hread, ?_, ?_, ?_⟩
  · rw [withToken_of_some h.operator, h.path]
  · rw [withToken_of_some h.operator, h.literal]
  · exact (operator?_withToken c).trans h.operator

end Clause

namespace Predicate

variable {τ : Type} {Row : τ → Type}

/-- The spelling of an operator is shown in one error only, and there it names none. -/
theorem compileClause_withToken (catalog : Catalog Row) (s : Schema Row) (c : Clause) :
    compileClause catalog s c.withToken = compileClause catalog s c := by
  cases h : c.operator? with
  | none => rw [Clause.withToken_of_none h]
  | some op =>
    have hop : ({ c with operator := op.token } : Clause).operator? = some op :=
      Operator.ofToken?_token op
    rw [Clause.withToken_of_some h, compileClause, compileClause, hop, h]

theorem compile_withTokens (catalog : Catalog Row) (t : τ) (g : Grouping) :
    compile catalog t g.withTokens = compile catalog t g := by
  rw [compile, compile, Grouping.withTokens]
  simp only [List.mapM_map, Function.comp_def, compileClause_withToken]

/-- **Operators are recognised by their own two letters only, and shown by them.** A text names an
operator exactly when it is two ASCII letters that are the token up to their case, so none with a
character outside ASCII does, though the lower case of a Kelvin sign, and of nothing else there, is
an ASCII text. Every token names its operator. The comparisons of a predicate are shown as the
clauses would be written with the token itself, which name the same operators and compile to the
same predicate; and if the grouping is that of a text, each can be read from what is shown. -/
theorem tokens_exact (catalog : Catalog Row) (t : τ) :
    (∀ s op, Operator.ofToken? s = some op ↔ op.Spells s) ∧
    (∀ s : String, (∃ c ∈ s.toList, 0x80 ≤ c.toNat) → Operator.ofToken? s = none) ∧
    (∀ c : Char, 0x80 ≤ c.toNat →
      ((∀ d ∈ Text.lower [c], d.toNat < 0x80) ↔ c = Text.kelvinSign)) ∧
    (∀ op : Operator, Operator.ofToken? op.token = some op) ∧
    ∀ g p, compile catalog t g = .ok p →
      List.Forall₂ (fun c k => c.operator? = some k.operator ∧ k.toString = c.withToken.written ∧
        c.withToken.operator? = some k.operator) g.clauses p.expression.leaves ∧
      compile catalog t g.withTokens = .ok p ∧
      ∀ options src, Grouping.parse options src = .ok g → ∀ k ∈ p.expression.leaves,
        ∃ c, Clause.read ⟨0, k.toString.toList⟩ = .ok c ∧ c.path = k.path ∧
          c.literal = k.literal ∧ c.operator? = some k.operator := by
  refine ⟨fun s op => Operator.ofToken?_eq_some_iff_spells, ?_, ?_, Operator.ofToken?_token, ?_⟩
  · rintro s ⟨c, hc, hlarge⟩
    exact Operator.ofToken?_eq_none_of_not_ascii hc hlarge
  · intro c hlarge
    rw [Text.ascii_lower_iff, List.forall_mem_singleton]
    exact or_iff_right (Nat.not_lt.mpr hlarge)
  · intro g p compiled
    have hshown := shownAs_leaves compiled
    refine ⟨?_, by rw [compile_withTokens, compiled], ?_⟩
    · refine hshown.imp fun c k hck => ⟨hck.operator, hck.toString_eq, ?_⟩
      rw [Clause.operator?_withToken, hck.operator]
    · intro options src hparse k hk
      obtain ⟨c, hc, hck⟩ := exists_of_mem_forall₂ hshown.flip hk
      exact hck.read_toString (Grouping.clause_wellFormed_of_parse hparse hc).path

/-- The Kelvin sign is no `k` for an operator, and a comparison written with `gT` is shown with the
token. -/
theorem tokens_exact_kelvin :
    Operator.ofToken? "\u212An" = none ∧ Text.lower [Text.kelvinSign] = ['k'] ∧
    (∀ d ∈ Text.lower [Text.kelvinSign], d.toNat < 0x80) ∧
    ∃ g p, compile People.catalog .person g = .ok p ∧
      Grouping.parse {} "Age gT 40" = .ok g ∧
      g.withTokens ≠ g ∧ compile People.catalog .person g.withTokens = .ok p ∧
      p.expression.leaves.map Comparison.toString = ["Age gt '40'"] ∧
      ∀ k ∈ p.expression.leaves, ∃ c, Clause.read ⟨0, k.toString.toList⟩ = .ok c ∧
        c.operator? = some k.operator := by
  obtain ⟨-, hnone, hkelvin, -, hshown⟩ := tokens_exact People.catalog .person
  have hparse : Grouping.parse {} "Age gT 40" =
      .ok ⟨[⟨[⟨⟨["Age"]⟩, "gT", "40", ⟨0, 9⟩⟩]⟩]⟩ := by
    decide +kernel
  have hleaves : (fun p : Predicate People.Rows .person =>
      p.expression.leaves.map Comparison.toString) <$>
        compile People.catalog .person ⟨[⟨[⟨⟨["Age"]⟩, "gT", "40", ⟨0, 9⟩⟩]⟩]⟩ =
          .ok ["Age gt '40'"] := by
    decide +kernel
  cases hcompile : compile People.catalog .person ⟨[⟨[⟨⟨["Age"]⟩, "gT", "40", ⟨0, 9⟩⟩]⟩]⟩ with
  | error e =>
    rw [hcompile] at hleaves
    cases hleaves
  | ok p =>
    rw [hcompile] at hleaves
    obtain ⟨-, htokens, hread⟩ := hshown _ p hcompile
    refine ⟨hnone _ ⟨Text.kelvinSign, by decide, by decide⟩, by decide +kernel,
      (hkelvin _ (by decide)).mpr rfl, _, p, hcompile, hparse, by decide +kernel, htokens,
      Except.ok.inj hleaves, ?_⟩
    intro k hk
    obtain ⟨c, hc, -, -, hop⟩ := hread {} _ hparse k hk
    exact ⟨c, hc, hop⟩

end Predicate
end RowFilter
