import RowFilter.Text.Quoted

/-!
# Inspections — values laid open for a developer

An inspection shows how a value is built: structures by name with their fields, lists in brackets,
texts quoted. It is written in one line, or as a block with a line for every field and item, a comma
after each of them and four blanks for each level.
-/

set_option autoImplicit false

namespace RowFilter

/-- How a value is built. -/
inductive Inspection where
  /-- A number or a bare name. -/
  | word (s : String)
  | text (s : String)
  | list (items : List Inspection)
  | record (name : String) (fields : List (String × Inspection))
  deriving Repr, Inhabited

namespace Inspection

def nat (n : Nat) : Inspection := word (toString n)

mutual

def inline : Inspection → String
  | word s => s
  | text s => Text.quoted s
  | list items => "[" ++ ", ".intercalate (inlineItems items) ++ "]"
  | record name [] => name
  | record name (f :: fs) =>
    name ++ " \x7b " ++ ", ".intercalate (inlineFields (f :: fs)) ++ " \x7d"

/-- The items, each in one line. -/
def inlineItems : List Inspection → List String
  | [] => []
  | x :: xs => inline x :: inlineItems xs

/-- The fields, each in one line. -/
def inlineFields : List (String × Inspection) → List String
  | [] => []
  | (name, x) :: fs => (name ++ ": " ++ inline x) :: inlineFields fs

end

/-- The blanks in front of a line. -/
def indent (level : Nat) : String := String.ofList (List.replicate (4 * level) ' ')

mutual

/-- The inspection as a block whose first line is already indented to `level`. -/
def blockAt (level : Nat) : Inspection → String
  | word s => s
  | text s => Text.quoted s
  | list [] => "[]"
  | list (x :: xs) => "[\n" ++ blockItems (level + 1) (x :: xs) ++ indent level ++ "]"
  | record name [] => name
  | record name (f :: fs) =>
    name ++ " \x7b\n" ++ blockFields (level + 1) (f :: fs) ++ indent level ++ "\x7d"

/-- The items, each on lines of its own. -/
def blockItems (level : Nat) : List Inspection → String
  | [] => ""
  | x :: xs => indent level ++ blockAt level x ++ ",\n" ++ blockItems level xs

/-- The fields, each on lines of its own. -/
def blockFields (level : Nat) : List (String × Inspection) → String
  | [] => ""
  | (name, x) :: fs =>
    indent level ++ name ++ ": " ++ blockAt level x ++ ",\n" ++ blockFields level fs

end

def block (x : Inspection) : String := blockAt 0 x

end Inspection
end RowFilter
