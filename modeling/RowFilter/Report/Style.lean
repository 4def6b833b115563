import RowFilter.Text.Split

/-!
# Terminal styles

A styled text stands between the escape sequence of its style and the one that resets all styles.
A reset inside the text would end the style too early, so the style is switched on again after
each.
-/

set_option autoImplicit false

namespace RowFilter

inductive Style where
  | bold
  | dimmed
  | boldDimmed
  | boldRed
  | boldGreen
  | yellow
  deriving DecidableEq, Repr

namespace Style

/-- The parameters of the escape sequence. -/
def codes : Style → List Char
  | bold => ['1']
  | dimmed => ['2']
  | boldDimmed => ['1', ';', '2']
  | boldRed => ['1', ';', '3', '1']
  | boldGreen => ['1', ';', '3', '2']
  | yellow => ['3', '3']

/-- The escape sequence with these parameters. -/
def escapeSequence (codes : List Char) : List Char := ['\x1b', '['] ++ codes ++ ['m']

def reset : List Char := escapeSequence ['0']

/-- The text in a style, or as it is if the terminal shows no styles. -/
def apply (style : Style) (enabled : Bool) (s : String) : String :=
  if enabled then
    let start := escapeSequence style.codes
    let inner := (reset ++ start).intercalate (Text.splitAround reset s.toList)
    String.ofList (start ++ inner ++ reset)
  else s

end Style
end RowFilter
