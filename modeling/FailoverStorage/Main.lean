import FailoverStorage.CommandLine.Run

/-!
# The program

The program reads its arguments and its environment, runs the command and writes what it reports.
It has no network of its own: controllers are out of its reach and it cannot serve, so it is of use
with the simulated cluster.
-/

namespace FailoverStorage.CommandLine

/-- The variables of the environment that matter. -/
def readEnvironment : IO (List (String × String)) := do
  let names := "API_ADDR" :: settingVariables.map (·.2)
  let values ← names.mapM fun name => do return (← IO.getEnv name).map fun value => (name, value)
  return values.filterMap id

/-- A transport that reaches no controller. -/
def noTransport : Transport Unit := fun _ => return none

/-- Writes a report and returns the status to end with. -/
def writeReport (r : Report) : IO UInt32 := do
  IO.print r.output
  for f in r.failures do
    IO.eprintln ("Error: " ++ f.text)
  match r.serveAt with
  | none => return .ofNat r.exitCode
  | some address =>
    let cause : Error := .internal ("Failed to bind REST server: no network at " ++ address)
    IO.eprintln ("Error: " ++ cause.message)
    return .ofNat cause.exitCode

/-- Runs a command line. -/
def runWords (words : List String) : IO UInt32 := do
  match invocation (← readEnvironment) words with
  | .misuse =>
    IO.eprintln "error: the arguments do not make up a command"
    return 2
  | .version =>
    IO.print versionLine
    return 0
  | .run settings command => writeReport ((run noTransport settings command).run ()).1

end FailoverStorage.CommandLine

/-- Runs the program. -/
def main (words : List String) : IO UInt32 := FailoverStorage.CommandLine.runWords words
