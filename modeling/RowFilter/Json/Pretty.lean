import RowFilter.Json.Basic

/-!
# Writing JSON

One item or member to a line, two blanks for each level, and nothing between the brackets of an
empty container. In a string the quote, the backslash and the control characters are escaped, the
common controls by their letters, and every other character stands for itself.
-/

set_option autoImplicit false

namespace RowFilter.Json

/-- A character inside a string. -/
def escapedChar (c : Char) : List Char :=
  match c with
  | '"' => ['\\', '"']
  | '\\' => ['\\', '\\']
  | '\x08' => ['\\', 'b']
  | '\x0c' => ['\\', 'f']
  | '\n' => ['\\', 'n']
  | '\r' => ['\\', 'r']
  | '\t' => ['\\', 't']
  | c =>
    if c.toNat < 0x20 then
      ['\\', 'u', '0', '0', Nat.digitChar (c.toNat / 16), Nat.digitChar (c.toNat % 16)]
    else [c]

def quotedString (s : String) : List Char :=
  ['"'] ++ s.toList.flatMap escapedChar ++ ['"']

def intText (n : Int) : List Char :=
  if n < 0 then '-' :: Nat.toDigits 10 n.natAbs else Nat.toDigits 10 n.natAbs

/-- A new line at this level. -/
def newLine (level : Nat) : List Char := '\n' :: List.replicate (2 * level) ' '

mutual

/-- A value whose first line is already indented to `level`. -/
def prettyAt (level : Nat) : Json → List Char
  | null => ['n', 'u', 'l', 'l']
  | bool true => ['t', 'r', 'u', 'e']
  | bool false => ['f', 'a', 'l', 's', 'e']
  | int n => intText n
  | real spelling => spelling.toList
  | str s => quotedString s
  | arr [] => ['[', ']']
  | arr (x :: xs) =>
    ['['] ++ newLine (level + 1) ++ prettyAt (level + 1) x ++ laterItems (level + 1) xs
      ++ newLine level ++ [']']
  | obj [] => ['\x7b', '\x7d']
  | obj ((key, x) :: ms) =>
    ['\x7b'] ++ newLine (level + 1) ++ quotedString key ++ [':', ' '] ++ prettyAt (level + 1) x
      ++ laterMembers (level + 1) ms ++ newLine level ++ ['\x7d']

/-- The items after the first, each on a line of its own. -/
def laterItems (level : Nat) : List Json → List Char
  | [] => []
  | x :: xs => [','] ++ newLine level ++ prettyAt level x ++ laterItems level xs

/-- The members after the first, each on a line of its own. -/
def laterMembers (level : Nat) : List (String × Json) → List Char
  | [] => []
  | (key, x) :: ms =>
    [','] ++ newLine level ++ quotedString key ++ [':', ' '] ++ prettyAt level x
      ++ laterMembers level ms

end

def pretty (x : Json) : String := String.ofList (prettyAt 0 x)

end RowFilter.Json
