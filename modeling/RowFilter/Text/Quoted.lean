import RowFilter.Text.HiddenTable

/-!
# Quoted text

A quoted text stands between double quotes. A quote and a backslash inside it are written with a
backslash in front, the common controls by their letters, and a character that cannot be seen on
its own by its code; a single quote is written as itself.
-/

set_option autoImplicit false

namespace RowFilter.Text

def quotedChar (c : Char) : List Char :=
  match c with
  | '"' => ['\\', '"']
  | '\\' => ['\\', '\\']
  | '\n' => ['\\', 'n']
  | '\r' => ['\\', 'r']
  | '\t' => ['\\', 't']
  | '\x00' => ['\\', '0']
  | c =>
    if isHidden c then
      ['\\', 'u', '\x7b'] ++ Nat.toDigits 16 c.toNat ++ ['\x7d']
    else [c]

def quoted (s : String) : String :=
  String.ofList (['"'] ++ s.toList.flatMap quotedChar ++ ['"'])

end RowFilter.Text
