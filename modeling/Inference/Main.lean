/-
The program.

Runs one command on the built-in models.  The exit status is zero if the command
succeeded, one if it failed, and two if the command line was not understood.
-/
import Inference.CommandLine.Command

open Inference

/-- Runs the command line. -/
def main (arguments : List String) : IO UInt32 := do
  match Command.parse? arguments with
  | none =>
    IO.eprintln "usage: singleshot <describe|invoke|bench> <MODEL> [OPTIONS]"
    return 2
  | some command =>
    let report ← command.run IO.monoNanosNow (builtinCatalog (W := Unit)) ()
    for line in report.printed do
      IO.println line
    if let some text := report.error then
      IO.eprintln (Report.errorLine text)
    return UInt32.ofNat report.exitStatus
