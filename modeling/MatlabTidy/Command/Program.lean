import MatlabTidy.Command.Arguments
import MatlabTidy.Config.Discovery
import MatlabTidy.Run.Walk

/-!
# The program

The program loads the settings, reads its arguments and carries out the request. Its exit code is
zero when nothing is left to fix, one when something is, and two when the request or the check
itself is at fault.
-/

namespace MatlabTidy.Command

/-- How a style check is carried out. -/
abbrev Execution := Setup → Options → String → Job Aggregate

/-- The style check with the table of rules. -/
def styleCheck : Execution := fun setup options target => Walk.check setup Rule.table options target

/-- Style guidelines that no rule checks. -/
def uncheckedGuidelines : List String :=
  ["Anything in a comment is ignored.",
   "Header comments to be read with help <filename>.",
   "Variable names should be legible.",
   "Reduce 3 or more blank lines to 2 blank lines (use cells).",
   "Proofread indentation (hit ctrl-a ctrl-i).",
   "Source control (svn, git, hg, etc.).",
   "Left hand zeros on decimal literals.",
   "i/j used as loop variables (suggest ii, jj)."]

/-- The kind of a rule and what can be done about its offences. -/
def ruleNature : Rule → String
  | .spacing _ => "pattern, auto-fix"
  | .line _ => "predicate, report-only"
  | .other kind _ => kind ++ ", report-only"

/-- The numbered list of the rules. -/
def ruleLines (rules : List Rule) : List String :=
  rules.zipIdx.map fun (rule, index) => s!"{index + 1}. [{ruleNature rule}] {rule.reason}"

/-- The exit code of a finished check. -/
def exitCode (report : Aggregate) : Nat :=
  if report.totals.totalFixes < report.totals.totalErrors then 1 else 0

/-- Warns about a fault. A warning that cannot be written stops the run, unless the log gets over it. -/
def warn (stack : Stack) (log : Log) (fault : Settings.Fault) : Job Unit :=
  match fault.warningWithin stack.literal, log with
  | .ok record, _ => Job.emit (.logged record)
  | .error .numberTooLong, .stream => Job.emit .recordLost
  | .error error, _ => throw (.ofLiteral error)

/-- The settings, with the warnings about their faults in the log. -/
def loadSettingsWith (stack : Stack) (log : Log) (table : Table) : Job Settings := do
  let (settings, faults) := Settings.ofTable table
  faults.forM (warn stack log)
  return settings

/-- The settings of a run, whose log goes to a stream. -/
def loadSettings (table : Table) : Job Settings := loadSettingsWith .standard .stream table

/-- Carries out a check. -/
def runCheck (execution : Execution) (process : String → ProcessOutcome) (settings : Settings)
    (target : String) (overrides : Settings.Overrides) (debug : Bool) : Job Nat := do
  if debug then Job.emit .logOpened
  Job.emit (.greeting false)
  let options := settings.options overrides
  Job.emit (.logged (Settings.optionsRecord options))
  let setup : Setup := ⟨settings.encoding, settings.checker, process, fun _ => none⟩
  tryCatch
    (do
      let report ← execution setup options (Path.ofString target).text
      return exitCode report)
    fun failure => do
      if failure.isStyleError then
        Job.notify .error failure.message
        return 2
      else if failure = .noMoreKeys then
        Job.emit .aborted
        return 1
      else
        throw failure

/-- Prints lines of plain output. -/
def printLines (lines : List String) : Job Nat := do
  lines.forM fun line => Job.emit (.printed line)
  return 0

/-- Runs the program on its arguments; gives the exit code. -/
def run (execution : Execution) (process : String → ProcessOutcome) (args : List String) :
    Job Nat := do
  let settings ← loadSettings (← Discovery.load none)
  match request args with
  | .check target overrides debug => runCheck execution process settings target overrides debug
  | .rules => printLines (ruleLines Rule.table)
  | .unchecked =>
    printLines ("Things not checked:" :: uncheckedGuidelines.map ("\t> " ++ ·))
  | .help =>
    Job.emit .help
    return 0
  | .usage =>
    Job.emit .usage
    return 2
  | .refusedValue option =>
    Job.emit (.refusedValue option)
    return 2

end MatlabTidy.Command
