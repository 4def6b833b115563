import RowFilter.Predicate.Expression
import RowFilter.Proofs.Syntax.ClauseText

/-!
# The text of an expression is unambiguous

An expression is shown with parentheses around every connective and quotes around every literal, and
nothing is escaped. A path may start with parentheses of its own, so the opening ones do not tell how
many connectives start at a place. The text is told apart from its end: it ends with a parenthesis or
with a quote, which says whether it is that of a connective or of a comparison, and the right part of
a connective goes back to the connective's own text (`Plain.toldFromEnd`).

What this needs is that the literals hold no quotes. The invariant of the induction is a text in
front, which ends with a space unless it is empty, and then as many parentheses on either side.
-/

set_option autoImplicit false

namespace RowFilter

/-- The path is told by its text, and the literal holds no quote. -/
structure Comparison.Plain (c : Comparison) : Prop where
  path : c.path.Plain
  literal : Clause.quote ∉ c.literal.toList

namespace Expression

/-- Plain comparisons, combined with "and" and "or" in any way. -/
inductive Plain : Expression → Prop
  | leaf {c : Comparison} : c.Plain → Plain (.leaf c)
  | and {l r : Expression} : Plain l → Plain r → Plain (.and l r)
  | or {l r : Expression} : Plain l → Plain r → Plain (.or l r)

variable {e f l r l' r' : Expression} {c d : Comparison} {k k' x y w v : List Char} {n : Nat}

/-- A path can start here: at the start of a text, or behind a space. -/
def Opens (x : List Char) : Prop := x = [] ∨ ∃ x', x = x' ++ [' ']

/-! ## Texts as characters -/

def chars (e : Expression) : List Char := e.toString.toList

/-- What a comparison shows behind its path and in front of its literal. -/
def operatorChars (op : Operator) : List Char := ' ' :: (op.token.toList ++ [' '])

theorem chars_leaf (c : Comparison) : chars (.leaf c) =
    c.path.toString.toList ++ operatorChars c.operator ++
      Clause.quote :: c.literal.toList ++ [Clause.quote] := by
  simp [chars, toString, Comparison.toString, operatorChars, Clause.quote, ToString.toString]

/-- The expression combines these two, and the characters stand between them. -/
inductive Joins : Expression → List Char → Expression → Expression → Prop
  | and (l r : Expression) : Joins (.and l r) [' ', '&', '&', ' '] l r
  | or (l r : Expression) : Joins (.or l r) [' ', '|', '|', ' '] l r

/-- A plain expression is a comparison, or it joins two plain ones. -/
theorem Plain.leaf_or_joins (h : e.Plain) : (∃ c, e = .leaf c ∧ c.Plain) ∨
    ∃ k l r, Joins e k l r ∧ l.Plain ∧ r.Plain := by
  cases h with
  | leaf hc => exact Or.inl ⟨_, rfl, hc⟩
  | and hl hr => exact Or.inr ⟨_, _, _, .and _ _, hl, hr⟩
  | or hl hr => exact Or.inr ⟨_, _, _, .or _ _, hl, hr⟩

theorem Joins.chars_eq (h : Joins e k l r) :
    chars e = '(' :: (chars l ++ k ++ chars r ++ [')']) := by
  cases h <;> simp [chars, toString, ToString.toString]

theorem Joins.length_eq (h : Joins e k l r) : k.length = 4 := by
  cases h <;> rfl

/-- What stands between them ends with a space. -/
theorem Joins.opens (h : Joins e k l r) (x : List Char) : Opens (x ++ k) := by
  cases h with
  | and => exact Or.inr ⟨x ++ [' ', '&', '&'], by simp⟩
  | or => exact Or.inr ⟨x ++ [' ', '|', '|'], by simp⟩

/-- The characters between them tell the connective. -/
theorem Joins.unique (h : Joins e k l r) (h' : Joins f k l r) : e = f := by
  cases h <;> cases h' <;> rfl

/-- A text ends with a quote or with a parenthesis. -/
theorem getLast?_chars_leaf (x : List Char) (c : Comparison) :
    (x ++ chars (.leaf c)).getLast? = some Clause.quote := by
  rw [chars_leaf, ← List.append_assoc, List.getLast?_concat]

theorem Joins.getLast?_chars (h : Joins e k l r) (x : List Char) :
    (x ++ chars e).getLast? = some ')' := by
  rw [h.chars_eq, ← List.cons_append, ← List.append_assoc, List.getLast?_concat]

/-! ## From the end of a text -/

/-- A last word starts where the last space ends. -/
theorem Opens.unique (hx : Opens x) (hy : Opens y) (hw : ' ' ∉ w) (hv : ' ' ∉ v)
    (h : x ++ w = y ++ v) : x = y ∧ w = v := by
  rcases hx with rfl | ⟨x, rfl⟩ <;> rcases hy with rfl | ⟨y, rfl⟩
  · exact ⟨rfl, h⟩
  · rw [List.nil_append] at h
    exact absurd (by simp [h]) hw
  · rw [List.nil_append] at h
    exact absurd (by simp [← h]) hv
  · rw [List.append_assoc, List.append_assoc] at h
    obtain ⟨rfl, hword⟩ := Text.last_unique hw hv h
    exact ⟨rfl, hword⟩

theorem operatorChars_unique {op op' : Operator} (h : x ++ operatorChars op = y ++ operatorChars op') :
    x = y ∧ op = op' := by
  have hlength : ∀ op : Operator, (operatorChars op).length = 4 := by
    intro op
    cases op <;> rfl
  obtain ⟨hfront, hop⟩ := List.append_inj' h ((hlength op).trans (hlength op').symm)
  refine ⟨hfront, ?_⟩
  cases op <;> cases op' <;> first | rfl | exact absurd hop (by decide)

/-- Parentheses in front of a path make one word with it. -/
theorem space_not_mem_parens_path (hc : c.Plain) (n : Nat) :
    ' ' ∉ List.replicate n '(' ++ c.path.toString.toList := by
  have hword := (Path.plain_iff.mp hc.path).1
  intro hmem
  rcases List.mem_append.mp hmem with hparen | hpath
  · exact absurd (List.eq_of_mem_replicate hparen) (by decide)
  · exact absurd (hword.2 ' ' hpath).1 (by decide)

/-- The expression, and the text in front of it, are told by the whole text, if the parentheses in
front of it are counted back to a place where a path can start. -/
def ToldFromEnd (e : Expression) : Prop :=
  ∀ ⦃f x y n⦄, f.Plain → Opens x → Opens y →
    x ++ List.replicate n '(' ++ chars e = y ++ List.replicate n '(' ++ chars f → x = y ∧ e = f

theorem toldFromEnd_leaf (hc : c.Plain) : ToldFromEnd (.leaf c) := by
  intro f x y n hf hx hy h
  rcases hf.leaf_or_joins with ⟨d, rfl, hd⟩ | ⟨k, l, r, hjoins, -, -⟩
  · have htexts : ∀ (x : List Char) (c : Comparison),
        x ++ List.replicate n '(' ++ chars (.leaf c) =
          x ++ (List.replicate n '(' ++ c.path.toString.toList) ++ operatorChars c.operator ++
            Clause.quote :: c.literal.toList ++ [Clause.quote] := by
      intro x c
      simp [chars_leaf]
    rw [htexts, htexts] at h
    obtain ⟨hfront, hliteral⟩ :=
      Text.last_unique hc.literal hd.literal (List.append_cancel_right h)
    obtain ⟨hfront, hoperator⟩ := operatorChars_unique hfront
    obtain ⟨rfl, hpath⟩ :=
      hx.unique hy (space_not_mem_parens_path hc n) (space_not_mem_parens_path hd n) hfront
    -- The parentheses are as many on either side, so what is left is the path.
    have hread := (Path.plain_iff.mp hc.path).2
    rw [List.append_cancel_left hpath, (Path.plain_iff.mp hd.path).2] at hread
    refine ⟨rfl, congrArg Tree.leaf ?_⟩
    cases c
    cases d
    simp only [Comparison.mk.injEq]
    exact ⟨(Option.some_inj.mp hread).symm, hoperator, String.toList_inj.mp hliteral⟩
  · have hends := congrArg List.getLast? h
    rw [getLast?_chars_leaf, hjoins.getLast?_chars] at hends
    cases hends

theorem Joins.toldFromEnd (he : Joins e k l r) (hl : ToldFromEnd l) (hr : ToldFromEnd r) :
    ToldFromEnd e := by
  intro f x y n hf hx hy h
  rcases hf.leaf_or_joins with ⟨d, rfl, -⟩ | ⟨k', l', r', hf, hl', hr'⟩
  · have hends := congrArg List.getLast? h
    rw [getLast?_chars_leaf, he.getLast?_chars] at hends
    cases hends
  · have htexts : ∀ {e k l r} (x : List Char), Joins e k l r →
        x ++ List.replicate n '(' ++ chars e =
          x ++ List.replicate (n + 1) '(' ++ chars l ++ k ++ List.replicate 0 '(' ++ chars r ++
            [')'] := by
      intro e k l r x h
      simp [h.chars_eq, List.replicate_succ']
    rw [htexts x he, htexts y hf] at h
    -- The right part stands behind a space, with no parenthesis of the connective in front of it.
    obtain ⟨hfront, rfl⟩ := hr hr' (he.opens _) (hf.opens _) (List.append_cancel_right h)
    -- The left part has one more in front of it.
    obtain ⟨hleft, rfl⟩ := List.append_inj' hfront (he.length_eq.trans hf.length_eq.symm)
    obtain ⟨rfl, rfl⟩ := hl hl' hx hy hleft
    exact ⟨rfl, he.unique hf⟩

theorem Plain.toldFromEnd (he : e.Plain) : ToldFromEnd e := by
  induction he with
  | leaf hc => exact toldFromEnd_leaf hc
  | @and l r _ _ ihl ihr => exact (Joins.and l r).toldFromEnd ihl ihr
  | @or l r _ _ ihl ihr => exact (Joins.or l r).toldFromEnd ihl ihr

/-- The word for the expression that holds of everything is not the text of another one. -/
theorem Plain.chars_ne_always (he : e.Plain) : chars e ≠ chars .always := by
  intro h
  have hends := congrArg (fun s => ([] ++ s).getLast?) h
  rcases he.leaf_or_joins with ⟨c, rfl, -⟩ | ⟨k, l, r, hjoins, -, -⟩
  · rw [getLast?_chars_leaf] at hends
    exact absurd hends (by decide)
  · rw [hjoins.getLast?_chars] at hends
    exact absurd hends (by decide)

/-- **Expressions that are shown alike are the same**, if the literals in them hold no quotes and the
paths are those that their texts show. The expressions may be nested in any way, and a path may look
like a part of an expression. -/
theorem shown_unambiguously (e f : Expression) (he : e = .always ∨ e.Plain)
    (hf : f = .always ∨ f.Plain) (h : e.toString = f.toString) : e = f := by
  have hchars : chars e = chars f := congrArg String.toList h
  rcases he with rfl | he <;> rcases hf with rfl | hf
  · rfl
  · exact absurd hchars.symm hf.chars_ne_always
  · exact absurd hchars he.chars_ne_always
  · have hends : [] ++ List.replicate 0 '(' ++ chars e = [] ++ List.replicate 0 '(' ++ chars f :=
      hchars
    exact (he.toldFromEnd hf (Or.inl rfl) (Or.inl rfl) hends).2

/-- A path that starts with parentheses and literals that look like the rest of an expression, once
grown from groups. -/
theorem shown_unambiguously_parens :
    ∃ c d : Comparison, c.path = ⟨["((A)&&", "||"]⟩ ∧ d.literal = ") || (B eq 1) && " ∧
      Plain (.or (.and (.leaf c) (.leaf d)) (.leaf c)) ∧
      toString (.or (.and (.leaf c) (.leaf d)) (.leaf c)) =
        "((((A)&&.|| eq 'x y' && B lt ') || (B eq 1) && ') || ((A)&&.|| eq 'x y')" ∧
      toString (.or (Tree.ofGroups [[c], [d]]) (.leaf c)) =
        toString (.or (.and (.leaf c) (.leaf d)) (.leaf c)) ∧
      Tree.or (Tree.ofGroups [[c], [d]]) (.leaf c) = .or (.and (.leaf c) (.leaf d)) (.leaf c) := by
  have hc : (⟨⟨["((A)&&", "||"]⟩, .equal, "x y"⟩ : Comparison).Plain :=
    ⟨by decide +kernel, by decide⟩
  have hd : (⟨⟨["B"]⟩, .lessThan, ") || (B eq 1) && "⟩ : Comparison).Plain :=
    ⟨by decide +kernel, by decide⟩
  have hplain := Plain.or (.and (.leaf hc) (.leaf hd)) (.leaf hc)
  exact ⟨_, _, rfl, rfl, hplain, by decide +kernel, rfl,
    shown_unambiguously _ _ (Or.inr hplain) (Or.inr hplain) rfl⟩

/-- A quote in a literal takes the connectives apart in another way. -/
example :
    toString (.and (.and (.leaf ⟨⟨["A"]⟩, .equal, "x"⟩) (.leaf ⟨⟨["B"]⟩, .equal, "y"⟩))
      (.leaf ⟨⟨["C"]⟩, .equal, "z"⟩)) =
    toString (.and (.leaf ⟨⟨["(A"]⟩, .equal, "x"⟩)
      (.leaf ⟨⟨["B"]⟩, .equal, "y') && C eq 'z"⟩)) := by
  decide +kernel

end Expression
end RowFilter
