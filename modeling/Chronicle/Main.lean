/- # The program

Runs the command line that it is given, prints what the command leaves behind
and returns its code.

Key definition: `main`.
-/
import Chronicle.CommandLine.Commands

open Chronicle

/-- Runs the program. -/
def main (words : List String) : IO UInt32 := do
  let values ← CommandLine.environmentNames.mapM fun name => do
    pure ((← IO.getEnv name).map fun value => (name, value))
  let outcome := CommandLine.run (values.filterMap id) words
  for record in outcome.log do IO.eprintln record.line
  if outcome.exitCode = 0 then IO.print outcome.output else IO.eprint outcome.output
  pure (UInt32.ofNat outcome.exitCode)
