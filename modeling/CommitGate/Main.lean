import CommitGate.CommandLine

/-!
The program. Its environment is that of the process. What the servers send is played back from the
arguments, one response in each; without arguments no server is reached.
-/

open CommitGate

/-- The variables of the process that a run asks for. -/
def CommitGate.Environment.ofProcess : IO Environment := do
  let names := Log.variable :: Variable.all.map Variable.name
  let values ← names.mapM fun name => return (name, ← IO.getEnv name)
  return fun name => (values.lookup name).join.map fun value => Text.toBytes value.toList

def main (args : List String) : IO UInt32 := do
  let env ← Environment.ofProcess
  let network : Network :=
    { listens := fun _ => !args.isEmpty
      replies := args.map fun text => Text.toBytes text.toList }
  let report := Report.ofRun env network
  for record in report.records do
    IO.eprintln ("[" ++ record.line ++ "]")
  IO.print report.output
  IO.eprint report.errors
  return report.exitCode.toUInt32
