import MatlabTidy.Checker.Basic
import MatlabTidy.Run.Job

/-!
# Asking the code checker

The code checker is asked once for every file. A checker that cannot be run leaves the file without
an assessment: that it is missing is reported once, every other trouble each time.
-/

namespace MatlabTidy.Checker

/-- Warns the operator. -/
def warn (checker : Checker) (message : String) : Job Unit :=
  if checker.announces then Job.notify .warning message
  else Job.log .warning .checking message

/-- The assessment of a file from what the call for it came to. -/
def check (checker : Checker) (file : String) (outcome : ProcessOutcome) : Job Assessment := do
  match outcome with
  | .missing =>
    let w ← get
    if !w.missingReported then
      let program := checker.command.headD ""
      checker.warn <|
        s!"Code checker '{program}' not found; complexity scores will be 0. "
          ++ "Install MATLAB or set checker_command in [tool.matlab-style]."
      modify fun w => { w with missingReported := true }
    return .none
  | .timedOut =>
    checker.warn s!"Code checker timed out after {checker.timeout}s on {file}"
    return .none
  | .refused cause =>
    checker.warn s!"Code checker failed on {file}: {cause}"
    return .none
  | .finished output errors =>
    let text := joinStreams output errors
    Job.log .debug .checking s!"Raw checker output for {file}:\n{text}"
    Job.ofExcept .numberTooLong (checker.assess text)

end MatlabTidy.Checker
