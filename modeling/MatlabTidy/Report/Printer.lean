import MatlabTidy.Console.Table
import MatlabTidy.Number.Decimal
import MatlabTidy.Report.Basic
import MatlabTidy.Text.Digit

/-!
# Printed reports

The lines that a finished file and a finished run leave on the console: the tally of a file with
the advisories of the code checker, and the summary, which is a table of the files and the totals.
A number of more than `Text.mostDigits` digits cannot be written, and neither can a mean beyond the
range of numbers: a tally or a table with such a number is left out as a whole, and the totals end
before it.
-/

namespace MatlabTidy

open Text (isWritable)

namespace FileReport

/-- Whether the numbers of the tally can be written. -/
def isTallyWritable (report : FileReport) (fix : Bool) : Bool :=
  isWritable report.totalErrors && (!fix || isWritable report.totalFixes)

/-- Whether the numbers of the file's row in the summary can be written. -/
def isRowWritable (report : FileReport) (fix : Bool) : Bool :=
  report.isTallyWritable fix && isWritable report.score

/-- The tally of a file. -/
def tally (report : FileReport) (fix : Bool) : String :=
  s!"File: {report.name}  Errors found: {report.totalErrors}"
    ++ if fix then s!"  Fixes applied: {report.totalFixes}" else ""

/-- The lines for a finished file. -/
def lines (report : FileReport) (fix verbose : Bool) : List String :=
  report.tally fix ::
    if verbose && !report.advisories.isEmpty then
      "Code checker advisories:" :: report.advisories.map ("  " ++ ·)
    else
      []

end FileReport

namespace Aggregate

/-- The title of the summary. -/
def summaryTitle : String := "[MSTYLE] Style Check Results"

/-- The columns of the summary table; the fixes are shown when fixing. -/
def columns (files : List FileReport) (fix : Bool) : List Console.Column :=
  let figure (f : FileReport → Int) := files.map fun report => toString (f report)
  [⟨"File", false, files.map FileReport.name⟩, ⟨"Errors", true, figure FileReport.totalErrors⟩]
    ++ (if fix then [⟨"Fixes", true, figure FileReport.totalFixes⟩] else [])
    ++ [⟨"Complexity", true, figure FileReport.score⟩]

/-- Whether the table of the files can be written. -/
def isTableWritable (a : Aggregate) (fix : Bool) : Bool :=
  a.files.all fun report => report.isRowWritable fix

/-- The lines of the summary table, if there is a file to show. -/
def table (a : Aggregate) (fix : Bool) : List String :=
  if a.files.isEmpty then [] else Console.table summaryTitle (columns a.files fix)

/-- The line of a total, if the number can be written. -/
def totalLine (label : String) (n : Int) : Option String :=
  if isWritable n then some s!"{label}: {n}" else none

/-- The lines of the totals, with `none` in place of those that cannot be written. -/
def totals? (a : Aggregate) (fix : Bool) : List (Option String) :=
  [some "", totalLine "Files analyzed" a.totals.filesAnalyzed,
    totalLine "Total errors" a.totals.totalErrors]
    ++ (if fix then [totalLine "Total fixes" a.totals.totalFixes] else [])
    ++ [a.totals.average.map fun mean => "Average complexity score: " ++ mean.fixedText]

/-- The lines of the totals, up to the first that cannot be written. -/
def totalLines (a : Aggregate) (fix : Bool) : List String :=
  ((a.totals? fix).takeWhile Option.isSome).filterMap id

/-- Whether all numbers in the totals can be written, the mean aside. -/
def areTotalsWritable (a : Aggregate) (fix : Bool) : Bool :=
  isWritable a.totals.totalErrors && (!fix || isWritable a.totals.totalFixes)

end Aggregate

end MatlabTidy
