import SdkGen.Command.Run
import SdkGen.Json.Printer
import SdkGen.Json.Reader

/-!
# The program

The program is given a command by its arguments and a workspace as a JSON document on standard input. It
prints what the command prints and then, if files have changed, one more line with those files as JSON.
What is wrong with the workspace or escapes from the run is written to standard error.
-/

namespace SdkGen.Main

/-- The files that a run has changed, as a document. -/
def changedFiles (w : Workspace) (o : Outcome) : Value :=
  .record ((o.tree.changes w.files).map fun f => (f.1, .optionalText f.2))

/-- How the program is called. -/
def usage : String := "Usage: polysdk (generate [--config PATH] [--verbose] | languages | version)"

end SdkGen.Main

open SdkGen in
/-- Runs one command over the workspace on standard input. -/
def main (arguments : List String) : IO UInt32 := do
  let input ← (← IO.getStdin).readToEnd
  let document := (Json.parse? input).getD (.map [])
  match Workspace.ofValue document "." with
  | .error f =>
    IO.eprintln f.message
    return 1
  | .ok w =>
    let o := Command.runArguments w arguments
    o.printed.forM IO.println
    unless (o.tree.changes w.files).isEmpty do IO.println (Json.compact (Main.changedFiles w o))
    if o.exitCode = 2 then IO.eprintln Main.usage
    if let some f := o.escaped then IO.eprintln f.message
    return (o.exitCode % 256).toNat.toUInt32
