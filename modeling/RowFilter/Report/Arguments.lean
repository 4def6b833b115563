import RowFilter.Report.Check
import RowFilter.Value.Integer

/-!
# Command line arguments

`check` takes one filter and its options in any order. After `--` nothing is an option, so that a
filter may start with a hyphen.
-/

set_option autoImplicit false

namespace RowFilter.Check

/-- The arguments read so far. -/
structure Arguments where
  options : CheckOptions := {}
  /-- Has the word `check` been read? -/
  command : Bool := false
  filter : Option String := none
  deriving DecidableEq, Repr, Inhabited

namespace Arguments

/-- Reads a limit, a number below `2 ^ 64`. -/
def readLimit? (s : String) : Option Nat := do
  let n ← BoundedInt.readNat? (match s.toList with
    | '+' :: r => r
    | r => r)
  if n < Nat.pow 2 64 then some n else none

/-- Takes one more word that is no option. -/
def addWord (a : Arguments) (word : String) : Option Arguments :=
  if !a.command then
    if word = "check" then some { a with command := true } else none
  else if a.filter.isNone then some { a with filter := some word }
  else none

def addLimit (a : Arguments) (s : String) : Option Arguments :=
  (readLimit? s).map fun n => { a with options.maxClauses := some n }

def readAfter (a : Arguments) : List String → Option Arguments
  | [] => some a
  | "--" :: words => words.foldlM addWord a
  | "--max-clauses" :: s :: later => do readAfter (← addLimit a s) later
  | arg :: later =>
    if arg = "--json" then readAfter { a with options.json := true } later
    else if arg = "--debug" ∨ arg = "-d" then readAfter { a with options.debug := true } later
    else if arg.startsWith "--max-clauses=" then do
      readAfter (← addLimit a (arg.drop "--max-clauses=".length).toString) later
    else if arg.startsWith "-" then none
    else do readAfter (← addWord a arg) later

/-- The options and the filter that a list of arguments asks to check. -/
def read? (args : List String) : Option (CheckOptions × String) := do
  let a ← readAfter {} args
  return (a.options, ← a.filter)

end Arguments
end RowFilter.Check
