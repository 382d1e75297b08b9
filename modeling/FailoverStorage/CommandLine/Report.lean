import FailoverStorage.Error
import FailoverStorage.Text.Split

/-!
# Reports

A command reports what it did, line by line, and every failure that it met.  The first failure
decides the status with which the process ends.
-/

namespace FailoverStorage.CommandLine

/-- **A failure of a command.** -/
structure Failure where
  /-- What the command was about to do, if it had begun. -/
  step : Option String := none
  cause : Error

/-- The text of a failure: the step, then the error and everything that caused it. -/
def Failure.text (f : Failure) : String := Text.joinWith ": " (f.step.toList ++ f.cause.chain)

/-- **What a command comes to.** -/
structure Report where
  output : String := ""
  failures : List Failure := []
  /-- The address at which requests are to be answered from now on. -/
  serveAt : Option String := none

/-- The status with which a process ends. -/
def Report.exitCode (r : Report) : Nat :=
  match r.failures with
  | [] => 0
  | first :: _ => first.cause.exitCode

/-- The report of a single step. -/
def Report.ofResult (step : Option String) : Except Error String → Report
  | .ok output => { output }
  | .error cause => { failures := [{ step, cause }] }

/-- What two commands come to, one after the other. -/
def Report.append (first second : Report) : Report :=
  { output := first.output ++ second.output
    failures := first.failures ++ second.failures
    serveAt := first.serveAt.or second.serveAt }

instance : Append Report where
  append := Report.append

end FailoverStorage.CommandLine
