import MatlabTidy.Number.Binary64

/-!
# Reports

A `FileReport` counts, rule by rule, what was found and what was fixed in one file. Reports of
files and folders form a tree, `Report`; each folder also keeps the per-file figures of its whole
subtree, in the order of the walk, so that merging a child appends the child's figures
(`Aggregate.merge`). `Report.files` lists the files of a tree, depth first.
-/

namespace MatlabTidy

/-- What was found in one file; the counts are in the order of the rules. -/
structure FileReport where
  name : String
  reasons : List String
  errors : List Int
  fixes : List Int
  score : Int
  advisories : List String
  deriving DecidableEq, Repr

namespace FileReport

/-- The number of offences in the file. -/
def totalErrors (report : FileReport) : Int := report.errors.foldr (· + ·) 0

/-- The number of offences that were fixed. -/
def totalFixes (report : FileReport) : Int := report.fixes.foldr (· + ·) 0

/-- The report of a file whose fixes were not kept. -/
def withoutFixes (report : FileReport) : FileReport :=
  { report with fixes := report.fixes.map fun _ => 0 }

end FileReport

/-- Per-file figures of a subtree, in the order of the walk. -/
structure Totals where
  scores : List Int
  errors : List Int
  fixes : List Int
  deriving DecidableEq, Repr, Inhabited

namespace Totals

/-- The figures of no file. -/
def empty : Totals := ⟨[], [], []⟩

/-- The figures of one file. -/
def ofFile (report : FileReport) : Totals :=
  ⟨[report.score], [report.totalErrors], [report.totalFixes]⟩

/-- The figures of one subtree followed by those of another. -/
def append (a b : Totals) : Totals :=
  ⟨a.scores ++ b.scores, a.errors ++ b.errors, a.fixes ++ b.fixes⟩

instance : Append Totals := ⟨append⟩

/-- The number of files. -/
def filesAnalyzed (totals : Totals) : Nat := totals.errors.length

/-- The number of offences in all files. -/
def totalErrors (totals : Totals) : Int := totals.errors.foldr (· + ·) 0

/-- The number of fixes in all files. -/
def totalFixes (totals : Totals) : Int := totals.fixes.foldr (· + ·) 0

/-- The mean of the complexity scores; `none` when it is beyond the range of numbers. -/
def average (totals : Totals) : Option Binary64 :=
  if totals.scores.isEmpty then
    some (.zero false)
  else
    match Binary64.ofQuotient (totals.scores.foldr (· + ·) 0) totals.scores.length with
    | .infinite _ => none
    | mean => some mean

end Totals

/-- A tree of reports. -/
inductive Report where
  | file (report : FileReport)
  | folder (name : String) (children : List Report) (totals : Totals)

instance : Inhabited Report := ⟨.folder "" [] .empty⟩

namespace Report

/-- The per-file figures of a tree. -/
def totals : Report → Totals
  | .file report => .ofFile report
  | .folder _ _ totals => totals

mutual

/-- The files of a tree, depth first. -/
def files : Report → List FileReport
  | .file report => [report]
  | .folder _ children _ => filesOf children

/-- The files of a list of trees, depth first. -/
def filesOf : List Report → List FileReport
  | [] => []
  | child :: rest => child.files ++ filesOf rest

end

end Report

/-- The report of a folder. -/
structure Aggregate where
  name : String
  children : List Report
  totals : Totals
  deriving Inhabited

namespace Aggregate

/-- The report of a folder in which nothing was found yet. -/
def empty (name : String) : Aggregate := ⟨name, [], .empty⟩

/-- The folder as a tree. -/
def toReport (a : Aggregate) : Report := .folder a.name a.children a.totals

/-- Appends a child to a folder. -/
def merge (a : Aggregate) (child : Report) : Aggregate :=
  ⟨a.name, a.children ++ [child], a.totals ++ child.totals⟩

/-- The report of a single file as that of a folder of its name. -/
def ofFile (report : FileReport) : Aggregate := (empty report.name).merge (.file report)

/-- The files of the folder, depth first. -/
def files (a : Aggregate) : List FileReport := Report.filesOf a.children

end Aggregate

end MatlabTidy
