import MatlabTidy.Run.Criterion
import MatlabTidy.Run.Job
import MatlabTidy.Run.Options
import MatlabTidy.Text.Lines

/-!
# Checking and fixing a line

All rules are matched against the line as it was read. The violations are then reported in the
order of the rules and, when fixing, each rule that has a repair is applied to the line as the
rules before it left it. Empty lines and comments are passed over, and so is a byte order mark at
the start of the first line; it is kept when the line is written again.
-/

namespace MatlabTidy

/-- How many offences a rule found and how many of them were fixed. -/
structure Count where
  errors : Nat
  fixes : Nat
  deriving DecidableEq, Repr

namespace Count

/-- Nothing found. -/
def zero : Count := ⟨0, 0⟩

/-- The sum of two counts. -/
def add (a b : Count) : Count := ⟨a.errors + b.errors, a.fixes + b.fixes⟩

/-- The sums of two lists of counts, rule by rule. -/
def addAll (a b : List Count) : List Count := List.zipWith add a b

end Count

variable {R : Type} [Criterion R]

/-- The columns of a rule on a line. -/
def Criterion.search (rule : R) (line : List Char) : Job Columns :=
  Job.ofExcept id (Criterion.columns rule line)

namespace Rule

/-- The columns of a rule of the table on a line. -/
def search (line : List Char) (rule : Rule) : Job Columns := Criterion.search rule line

/-- The columns of all rules on a line. -/
def evaluate (line : List Char) : List R → Job (List (R × Columns))
  | [] => return []
  | rule :: rest => do
    let columns ← Criterion.search rule line
    let others ← evaluate line rest
    return (rule, columns) :: others

end Rule

namespace Line

/-- Reports a violation; the ruler of a verbose report must be one that can be drawn. -/
def report (violation : Violation) : Job Unit := do
  Job.emit (.violation violation)
  if violation.verbose then
    let _ ← Job.ofExcept .ruler violation.columns.markers

/-- The line after the fix of a rule, and whether the fix was made. A fix that would change nothing
is not made; an interactive fix is made if the operator accepts it. -/
def applyFix (line : List Char) (rule : R) (columns : Columns) (interactive : Bool)
    (lineNumber : Int) : Job (List Char × Bool) :=
  match Criterion.repair? rule with
  | none => throw (.noRepair (Criterion.reason rule))
  | some repair =>
    if columns.isEmpty then return (line, false)
    else do
      let candidate ← Job.ofExcept id (repair line)
      if candidate = line then return (line, false)
      else if !interactive then return (candidate, true)
      else do
        if (← get).keys.isNone then throw .nobodyToAsk
        let markers ← Job.ofExcept .ruler columns.markers
        let accepted ← Job.confirm ⟨lineNumber, line, markers, candidate, Criterion.reason rule⟩
        return if accepted then (candidate, true) else (line, false)

/-- Reports what the rules found on the line `asRead`, and fixes the line `current`. -/
def checkMatches (options : Options) (lineNumber : Nat) (asRead : List Char) :
    List (R × Columns) → (current : List Char) → Job (List Char × List Count)
  | [], current => return (current, [])
  | (rule, columns) :: rest, current => do
    if columns.isEmpty then
      let (line, counts) ← checkMatches options lineNumber asRead rest current
      return (line, .zero :: counts)
    else
      report ⟨lineNumber, asRead, columns, Criterion.reason rule, options.verbose⟩
      if options.fix && (Criterion.repair? rule).isSome then
        let again ← Criterion.search rule current
        let (next, fixed) ← applyFix current rule again options.interactive lineNumber
        let (line, counts) ← checkMatches options lineNumber asRead rest next
        return (line, ⟨columns.length, if fixed then columns.length else 0⟩ :: counts)
      else
        let (line, counts) ← checkMatches options lineNumber asRead rest current
        return (line, ⟨columns.length, 0⟩ :: counts)

/-- Checks the text of a line against the rules, and gives the text as it is to be written. -/
def check (rules : List R) (options : Options) (lineNumber : Nat) (text : List Char) :
    Job (List Char × List Count) := do
  let found ← Rule.evaluate text rules
  checkMatches options lineNumber text found text

/-- Whether the rules look at a text. -/
def isChecked (text : List Char) : Bool := !text.isEmpty && !isCommentLine text

/-- The byte order mark at the start of the first line, and the rest of the line. -/
def splitMark (lineNumber : Nat) (text : List Char) : List Char × List Char :=
  match text with
  | c :: rest => if lineNumber = 1 ∧ c = byteOrderMark then ([c], rest) else ([], text)
  | [] => ([], [])

/-- Checks a raw line, and gives the raw line as it is to be written. -/
def scan (rules : List R) (options : Options) (lineNumber : Nat) (raw : List Char) :
    Job (List Char × List Count) := do
  let line := Text.Line.ofRaw raw
  let (mark, text) := splitMark lineNumber line.text
  if isChecked text then
    let (text, counts) ← check rules options lineNumber text
    return (mark ++ text ++ line.ending.chars, counts)
  else
    return (mark ++ text ++ line.ending.chars, rules.map fun _ => .zero)

end Line

end MatlabTidy
