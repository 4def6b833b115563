import RowFilter.Report.Arguments

/-!
# The command line

`check [--json] [--debug] [--max-clauses N] -- FILTER` checks a filter. The environment decides on
terminal styles: `CLICOLOR_FORCE` switches them on, `NO_COLOR` off, and otherwise they are used on
a terminal unless `CLICOLOR` is zero.
-/

set_option autoImplicit false

namespace RowFilter

def wantsColor : IO Bool := do
  if let some value ← IO.getEnv "CLICOLOR_FORCE" then
    if value ≠ "0" then return true
  if (← IO.getEnv "NO_COLOR").isSome then return false
  if (← IO.getEnv "CLICOLOR") = some "0" then return false
  (← IO.getStdout).isTty

end RowFilter

open RowFilter in
def main (args : List String) : IO UInt32 := do
  match Check.Arguments.read? args with
  | none =>
    IO.eprintln "usage: check [--json] [--debug] [--max-clauses N] -- FILTER"
    return 2
  | some (options, filter) =>
    let outcome := Check.run { options with color := ← wantsColor } filter
    IO.print outcome.stdout
    IO.eprint outcome.stderr
    return outcome.exitCode.toUInt32
