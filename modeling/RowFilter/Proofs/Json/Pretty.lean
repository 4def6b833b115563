import RowFilter.Proofs.Json.Atoms

/-!
# Values read back from their text

The writer goes down a value, and the reader goes along a text with a bound on the number of its
calls. Between the two stands `ReadsBack`: a value reads back if the reader, started at the text of
the value at any level and with anything after it, returns the value and stops where its text ends.
Items read back one after another if each of them does (`readItems_prettyAt`), so do members if no
key is given twice (`readMembers_prettyAt`), and an induction over the value puts these together.
The bound is the length of the text: an opening bracket pays for the two calls of a level, and a
comma for the call after it.
-/

set_option autoImplicit false

namespace RowFilter.Json

/-- No number keeps its spelling, and no object gives a key twice. -/
inductive Plain : Json → Prop where
  | null : Plain null
  | bool (b : Bool) : Plain (bool b)
  | int (n : Int) : Plain (int n)
  | str (s : String) : Plain (str s)
  | arr {xs : List Json} (h : ∀ x ∈ xs, Plain x) : Plain (arr xs)
  | obj {ms : List (String × Json)} (hkeys : (ms.map Prod.fst).Nodup) (h : ∀ m ∈ ms, Plain m.2) :
    Plain (obj ms)

variable {w s r rest : List Char} {fuel level : Nat} {c : Char} {key : String} {x : Json}
  {xs : List Json} {ms : List (String × Json)}

/-! ## White space -/

/-- A text of blanks, tabs and line ends. -/
def White (w : List Char) : Prop := ∀ c ∈ w, isSpace c = true

theorem white_blank : White [' '] := by simp [White, isSpace]

theorem white_newLine (level : Nat) : White (newLine level) := by
  intro c hc
  rcases List.mem_cons.mp hc with rfl | hc
  · rfl
  · rw [List.eq_of_mem_replicate hc]
    rfl

theorem skipSpace_white (hw : White w) (s : List Char) : skipSpace (w ++ s) = skipSpace s :=
  List.dropWhile_append_of_pos hw

theorem skipSpace_cons (hc : isSpace c = false) (r : List Char) : skipSpace (c :: r) = c :: r :=
  List.dropWhile_cons_of_neg (by simp [hc])

theorem readValue_white (hw : White w) (fuel : Nat) (s : List Char) :
    readValue fuel (w ++ s) = readValue fuel s := by
  cases fuel with
  | zero => simp only [readValue]
  | succ fuel => simp only [readValue, skipSpace_white hw]

theorem readValue_blank (fuel : Nat) (s : List Char) :
    readValue fuel (' ' :: s) = readValue fuel s :=
  readValue_white white_blank fuel s

theorem readItems_white (hw : White w) (fuel : Nat) (s : List Char) :
    readItems fuel (w ++ s) = readItems fuel s := by
  cases fuel with
  | zero => simp only [readItems]
  | succ fuel => simp only [readItems, readValue_white hw]

theorem readMembers_white (hw : White w) (fuel : Nat) (s : List Char) :
    readMembers fuel (w ++ s) = readMembers fuel s := by
  cases fuel with
  | zero => simp only [readMembers]
  | succ fuel => simp only [readMembers, skipSpace_white hw]

/-! ## Steps of the reader -/

theorem exists_readString_quotedString (t : String) (rest : List Char) :
    ∃ s, quotedString t ++ rest = '"' :: s ∧ readString s = some (t, rest) := by
  refine ⟨t.toList.flatMap escapedChar ++ '"' :: rest, ?_, readString_escaped t rest⟩
  simp [quotedString]

theorem readValue_quotedString (fuel : Nat) (t : String) (rest : List Char) :
    readValue (fuel + 1) (quotedString t ++ rest) = some (str t, rest) := by
  obtain ⟨s, heq, hs⟩ := exists_readString_quotedString t rest
  rw [heq]
  simp [readValue, skipSpace_cons (c := '"') rfl, hs]

/-- What opens neither a string nor a container is left to the reader of atoms. -/
theorem readValue_atom (hc : isSpace c = false) (hquote : c ≠ '"') (hitems : c ≠ '[')
    (hmembers : c ≠ '\x7b') : readValue (fuel + 1) (c :: r) = readAtom (c :: r) := by
  simp [readValue, skipSpace_cons hc, hquote, hitems, hmembers]

theorem readValue_arr (hw : White w) (hc : isSpace c = false) (hclose : c ≠ ']')
    (h : readItems fuel (c :: r) = some (xs, rest)) :
    readValue (fuel + 1) ('[' :: (w ++ c :: r)) = some (arr xs, rest) := by
  simp [readValue, skipSpace_cons (c := '[') rfl, skipSpace_white hw, skipSpace_cons hc, hclose, h]

theorem readValue_obj (hw : White w)
    (h : readMembers fuel (quotedString key ++ r) = some (ms, rest)) :
    readValue (fuel + 1) ('\x7b' :: (w ++ (quotedString key ++ r))) = some (obj ms, rest) := by
  obtain ⟨k, heq, -⟩ := exists_readString_quotedString key r
  rw [heq] at h ⊢
  simp [readValue, skipSpace_cons (c := '\x7b') rfl, skipSpace_white hw,
    skipSpace_cons (c := '"') rfl, h]

theorem readItems_last (hw : White w) (h : readValue fuel s = some (x, w ++ ']' :: rest)) :
    readItems (fuel + 1) s = some ([x], rest) := by
  simp [readItems, h, skipSpace_white hw, skipSpace_cons (c := ']') rfl]

theorem readItems_more (h : readValue fuel s = some (x, ',' :: r))
    (hmore : readItems fuel r = some (xs, rest)) :
    readItems (fuel + 1) s = some (x :: xs, rest) := by
  simp [readItems, h, skipSpace_cons (c := ',') rfl, hmore]

theorem readMembers_last (hw : White w) (h : readValue fuel s = some (x, w ++ '\x7d' :: rest)) :
    readMembers (fuel + 1) (quotedString key ++ ':' :: ' ' :: s) = some ([(key, x)], rest) := by
  obtain ⟨k, heq, hk⟩ := exists_readString_quotedString key (':' :: ' ' :: s)
  rw [heq]
  simp [readMembers, skipSpace_cons (c := '"') rfl, hk, skipSpace_cons (c := ':') rfl,
    readValue_blank, h, skipSpace_white hw, skipSpace_cons (c := '\x7d') rfl]

theorem addMember_of_notMem (h : key ∉ ms.map Prod.fst) : addMember key x ms = (key, x) :: ms := by
  apply if_neg
  intro hany
  obtain ⟨m, hm, hkey⟩ := List.any_eq_true.mp hany
  exact h (List.mem_map.mpr ⟨m, hm, of_decide_eq_true hkey⟩)

theorem readMembers_more (hkey : key ∉ ms.map Prod.fst) (h : readValue fuel s = some (x, ',' :: r))
    (hmore : readMembers fuel r = some (ms, rest)) :
    readMembers (fuel + 1) (quotedString key ++ ':' :: ' ' :: s) = some ((key, x) :: ms, rest) := by
  obtain ⟨k, heq, hk⟩ := exists_readString_quotedString key (':' :: ' ' :: s)
  rw [heq]
  simp [readMembers, skipSpace_cons (c := '"') rfl, hk, skipSpace_cons (c := ':') rfl,
    readValue_blank, h, skipSpace_cons (c := ',') rfl, hmore, addMember_of_notMem hkey]

/-! ## The layout of containers -/

theorem prettyAt_arr_cons (level : Nat) (x : Json) (xs : List Json) (s : List Char) :
    prettyAt level (arr (x :: xs)) ++ s =
      '[' :: (newLine (level + 1) ++ (prettyAt (level + 1) x ++
        (laterItems (level + 1) xs ++ (newLine level ++ ']' :: s)))) := by
  simp [prettyAt]

theorem laterItems_cons (level : Nat) (x : Json) (xs : List Json) (s : List Char) :
    laterItems level (x :: xs) ++ s =
      ',' :: (newLine level ++ (prettyAt level x ++ (laterItems level xs ++ s))) := by
  simp [laterItems]

theorem prettyAt_obj_cons (level : Nat) (key : String) (x : Json) (ms : List (String × Json))
    (s : List Char) :
    prettyAt level (obj ((key, x) :: ms)) ++ s =
      '\x7b' :: (newLine (level + 1) ++ (quotedString key ++ ':' :: ' ' ::
        (prettyAt (level + 1) x ++ (laterMembers (level + 1) ms ++
          (newLine level ++ '\x7d' :: s))))) := by
  simp [prettyAt]

theorem laterMembers_cons (level : Nat) (key : String) (x : Json) (ms : List (String × Json))
    (s : List Char) :
    laterMembers level ((key, x) :: ms) ++ s =
      ',' :: (newLine level ++ (quotedString key ++ ':' :: ' ' ::
        (prettyAt level x ++ (laterMembers level ms ++ s)))) := by
  simp [laterMembers]

theorem isSpace_of_isNumeric (hc : isNumeric c = true) : isSpace c = false := by
  rw [Bool.eq_false_iff]
  intro hspace
  simp only [isSpace, Bool.or_eq_true, decide_eq_true_eq] at hspace
  rcases hspace with ((rfl | rfl) | rfl) | rfl <;> cases hc

/-- The text of a value is not mistaken for white space or for the end of an array. -/
theorem Plain.prettyAt_eq_cons (h : x.Plain) (level : Nat) :
    ∃ c r, prettyAt level x = c :: r ∧ isSpace c = false ∧ c ≠ ']' := by
  cases h with
  | null => exact ⟨'n', _, rfl, rfl, by decide⟩
  | bool b =>
    cases b with
    | false => exact ⟨'f', _, rfl, rfl, by decide⟩
    | true => exact ⟨'t', _, rfl, rfl, by decide⟩
  | int n =>
    obtain ⟨c, r, heq, hc⟩ := intText_eq_cons n
    exact ⟨c, r, heq, isSpace_of_isNumeric hc, ne_of_isNumeric hc rfl⟩
  | str s => exact ⟨'"', _, rfl, rfl, by decide⟩
  | @arr xs _ =>
    cases xs with
    | nil => exact ⟨'[', _, rfl, rfl, by decide⟩
    | cons x xs => exact ⟨'[', _, rfl, rfl, by decide⟩
  | @obj ms _ _ =>
    cases ms with
    | nil => exact ⟨'\x7b', _, rfl, rfl, by decide⟩
    | cons m ms => exact ⟨'\x7b', _, rfl, rfl, by decide⟩

/-! ## Reading back -/

/-- The value is read from its text, at any level and up to the end of it. -/
def ReadsBack (x : Json) : Prop :=
  ∀ (level fuel : Nat) (rest : List Char), EndsNumber rest → (prettyAt level x).length ≤ fuel →
    readValue (fuel + 1) (prettyAt level x ++ rest) = some (x, rest)

theorem readItems_prettyAt {outer : Nat} (h : ∀ y ∈ x :: xs, ReadsBack y)
    (hfuel : (prettyAt level x).length + (laterItems level xs).length ≤ fuel) :
    readItems (fuel + 2)
      (prettyAt level x ++ (laterItems level xs ++ (newLine outer ++ ']' :: rest))) =
      some (x :: xs, rest) := by
  have hx : ReadsBack x := h x List.mem_cons_self
  induction xs generalizing x fuel with
  | nil => exact readItems_last (white_newLine outer) (hx level fuel _ rfl hfuel)
  | cons y ys ih =>
    -- The comma pays for the call that reads the later items.
    simp only [laterItems, List.length_append, List.length_cons] at hfuel
    obtain ⟨fuel, rfl⟩ : ∃ n, fuel = n + 1 := ⟨fuel - 1, by omega⟩
    rw [laterItems_cons]
    apply readItems_more (hx level (fuel + 1) _ rfl (by omega))
    rw [readItems_white (white_newLine level)]
    have hlater : ∀ z ∈ y :: ys, ReadsBack z := fun z hz => h z (List.mem_cons_of_mem x hz)
    exact ih hlater (by omega) (hlater y List.mem_cons_self)

theorem readMembers_prettyAt {outer : Nat} (hkeys : (((key, x) :: ms).map Prod.fst).Nodup)
    (h : ∀ m ∈ (key, x) :: ms, ReadsBack m.2)
    (hfuel : (prettyAt level x).length + (laterMembers level ms).length ≤ fuel) :
    readMembers (fuel + 2) (quotedString key ++ ':' :: ' ' ::
      (prettyAt level x ++ (laterMembers level ms ++ (newLine outer ++ '\x7d' :: rest)))) =
      some ((key, x) :: ms, rest) := by
  have hx : ReadsBack x := h (key, x) List.mem_cons_self
  induction ms generalizing key x fuel with
  | nil => exact readMembers_last (white_newLine outer) (hx level fuel _ rfl hfuel)
  | cons m ms ih =>
    obtain ⟨hkey, hkeys⟩ := List.nodup_cons.mp hkeys
    simp only [laterMembers, List.length_append, List.length_cons] at hfuel
    obtain ⟨fuel, rfl⟩ : ∃ n, fuel = n + 1 := ⟨fuel - 1, by omega⟩
    rw [laterMembers_cons]
    apply readMembers_more hkey (hx level (fuel + 1) _ rfl (by omega))
    rw [readMembers_white (white_newLine level)]
    have hlater : ∀ n ∈ m :: ms, ReadsBack n.2 := fun n hn => h n (List.mem_cons_of_mem _ hn)
    exact ih hkeys hlater (by omega) (hlater m List.mem_cons_self)

theorem Plain.readsBack (h : x.Plain) : x.ReadsBack := by
  induction h with
  | null => exact fun level fuel rest _ _ => readValue_atom rfl (by decide) (by decide) (by decide)
  | bool b =>
    cases b with
    | false => exact fun _ _ _ _ _ => readValue_atom rfl (by decide) (by decide) (by decide)
    | true => exact fun _ _ _ _ _ => readValue_atom rfl (by decide) (by decide) (by decide)
  | int n =>
    -- The one value whose text has no end of its own.
    intro level fuel rest hrest _
    obtain ⟨c, r, heq, hc⟩ := intText_eq_cons n
    rw [prettyAt, ← readAtom_intText n hrest, heq]
    exact readValue_atom (isSpace_of_isNumeric hc) (ne_of_isNumeric hc rfl)
      (ne_of_isNumeric hc rfl) (ne_of_isNumeric hc rfl)
  | str s => exact fun level fuel rest _ _ => readValue_quotedString fuel s rest
  | @arr xs hxs ih =>
    intro level fuel rest _ hfuel
    cases xs with
    | nil =>
      simp [prettyAt, readValue, skipSpace_cons (c := '[') rfl, skipSpace_cons (c := ']') rfl]
    | cons x xs =>
      -- The brackets pay for the calls that read the array and its first item.
      simp only [prettyAt, List.length_append, List.length_cons] at hfuel
      obtain ⟨fuel, rfl⟩ : ∃ n, fuel = n + 2 := ⟨fuel - 2, by omega⟩
      have hitems : readItems (fuel + 2) (prettyAt (level + 1) x ++
          (laterItems (level + 1) xs ++ (newLine level ++ ']' :: rest))) = some (x :: xs, rest) :=
        readItems_prettyAt ih (by omega)
      -- The reader looks for the end of the array first, and must not find it here.
      obtain ⟨c, r, heq, hc, hclose⟩ := (hxs x List.mem_cons_self).prettyAt_eq_cons (level + 1)
      rw [prettyAt_arr_cons]
      rw [heq, List.cons_append] at hitems ⊢
      exact readValue_arr (white_newLine (level + 1)) hc hclose hitems
  | @obj ms hkeys _ ih =>
    intro level fuel rest _ hfuel
    cases ms with
    | nil =>
      simp [prettyAt, readValue, skipSpace_cons (c := '\x7b') rfl,
        skipSpace_cons (c := '\x7d') rfl]
    | cons m ms =>
      simp only [prettyAt, List.length_append, List.length_cons] at hfuel
      obtain ⟨fuel, rfl⟩ : ∃ n, fuel = n + 2 := ⟨fuel - 2, by omega⟩
      rw [prettyAt_obj_cons]
      exact readValue_obj (white_newLine (level + 1)) (readMembers_prettyAt hkeys ih (by omega))

/-- **A value is read back from its text.** -/
theorem read?_pretty (h : x.Plain) : read? x.pretty = some x := by
  have hread := h.readsBack 0 (2 * (prettyAt 0 x).length) [] rfl (by omega)
  rw [List.append_nil] at hread
  simp [read?, pretty, hread, skipSpace]

end RowFilter.Json
