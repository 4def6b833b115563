import RowFilter.Text.CodeRange

/-!
# Blank characters — trimming and words

A character is *blank* when it has the Unicode property `White_Space`. The class is wider than
the ASCII one (a no-break space and an ideographic space are blank) and narrower than "invisible":
a zero width space is not blank, and a filter that holds one holds a word.

Trimming and splitting into words act on the characters themselves, with no positions, so that
each law about them is one induction.
-/

set_option autoImplicit false

namespace RowFilter.Text

/-- The code ranges of the property `White_Space`. -/
def blankRanges : CodeRanges :=
  [(0x09, 0x0D), (0x20, 0x20), (0x85, 0x85), (0xA0, 0xA0), (0x1680, 0x1680), (0x2000, 0x200A),
   (0x2028, 0x2029), (0x202F, 0x202F), (0x205F, 0x205F), (0x3000, 0x3000)]

def isBlank (c : Char) : Bool := blankRanges.has c

/-- Is every character blank? The empty text is. -/
def allBlank (s : List Char) : Bool := s.all isBlank

def trimStart (s : List Char) : List Char := s.dropWhile isBlank

def trimEnd : List Char → List Char
  | [] => []
  | c :: r =>
    match trimEnd r with
    | [] => if isBlank c then [] else [c]
    | d :: t => c :: d :: t

def trim (s : List Char) : List Char := trimEnd (trimStart s)

/-- The maximal runs of characters that are not blank, in order. -/
def words (s : List Char) : List (List Char) :=
  (s.splitOnP isBlank).filter fun w => !w.isEmpty

end RowFilter.Text
