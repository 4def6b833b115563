import RowFilter.Text.CaseTable

/-!
# Lower-casing

Field names and operators are matched by their lower case, in full Unicode. Every character has
its own lower case, but for two rules that a table of single characters cannot hold:

* a capital `I` with a dot above becomes two characters, a small `i` and a combining dot;
* a capital sigma becomes a *final* sigma at the end of a word, that is, when it follows a cased
  letter and none follows it, both looked for past the characters that case ignores.

The second rule is why `lowercase` is a function of a text and not a map over its characters.
-/

set_option autoImplicit false

namespace RowFilter.Text

def isCased (c : Char) : Bool := casedRanges.has c

def isCaseIgnorable (c : Char) : Bool := caseIgnorableRanges.has c

/-- The lower case of a character whose lower case is one character. -/
def lowerChar (c : Char) : Char :=
  match caseRanges.findSome? fun r => r.lower? c.toNat with
  | some code => Char.ofNat code
  | none => c

/-- Past the characters that case ignores, does the text start with a cased letter? -/
def startsCased (s : List Char) : Bool :=
  match s.dropWhile isCaseIgnorable with
  | c :: _ => isCased c
  | [] => false

/-- The lower case of a capital sigma that stands after `before`, nearest character first, and
in front of `after`. -/
def lowerSigma (before after : List Char) : Char :=
  if startsCased before && !startsCased after then 'ς' else 'σ'

/-- The lower case of a text that stands after `before`, nearest character first. -/
def lowerAfter (before : List Char) : List Char → List Char
  | [] => []
  | c :: r =>
    let here :=
      if c = 'Σ' then [lowerSigma before r]
      else if c = 'İ' then ['i', '\u0307']
      else [lowerChar c]
    here ++ lowerAfter (c :: before) r

def lower (s : List Char) : List Char := lowerAfter [] s

def lowercase (s : String) : String := String.ofList (lower s.toList)

end RowFilter.Text
