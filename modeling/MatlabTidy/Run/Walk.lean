import MatlabTidy.Run.Itinerary

/-!
# Walking

A walk carries out an itinerary and merges the reports of the files, in the order in which it meets
them. A file that cannot be read or replaced is reported to the operator and does not stop the walk.
`Walk.check` is a whole run: it looks at the target, walks and writes the summary.
-/

namespace MatlabTidy.Walk

/-- What a walk needs to know. -/
structure Plan where
  /-- Scans the file at a path, which is shown under the given name. -/
  scan : (path name : String) → Job FileReport
  /-- The path that names are shown relative to. -/
  root : String

/-- The name under which a path is shown. -/
def Plan.nameOf (plan : Plan) (path : String) : Job String := do
  let w ← get
  return Path.displayName w.volume.hereText path (some plan.root)

/-- Tells the operator that a file is no source. -/
def Plan.skipFile (plan : Plan) (path : String) : Job Unit := do
  let name ← plan.nameOf path
  Job.notify .warning s!"Skipping non-MATLAB file: {name}"

/-- Scans a file and merges its report. -/
def Plan.mergeFile (plan : Plan) (a : Aggregate) (path : String) : Job Aggregate := do
  let name ← plan.nameOf path
  Job.notify .info s!"Evaluating: {name}"
  tryCatch
    (do
      let report ← plan.scan path name
      return a.merge (.file report))
    fun failure => do
      match failure with
      | .replaceFailed _ report _ =>
        Job.notify .error s!"{failure.message}. Original file left unchanged."
        return a.merge (.file report.withoutFixes)
      | _ =>
        if failure.isFileTrouble then
          Job.notify .error s!"Could not read {name}: {failure.message}"
          return a
        else
          throw failure

mutual

/-- Carries out one step. -/
def runStep (plan : Plan) (a : Aggregate) : Step → Job Aggregate
  | .scan path => plan.mergeFile a path
  | .skipFile path => do
    plan.skipFile path
    return a
  | .skipFolder path => do
    Job.log .debug .walking s!"Skipping subdirectory (recursion disabled): {path}"
    return a
  | .skipVisited path => do
    let name ← plan.nameOf path
    Job.notify .warning s!"Skipping already visited directory: {name}"
    return a
  | .enter path steps => do
    let name ← plan.nameOf path
    let inner ← runSteps plan (.empty name) steps
    return a.merge inner.toReport
  | .fail failure => throw failure

/-- Carries out steps, one after the other. -/
def runSteps (plan : Plan) (a : Aggregate) : List Step → Job Aggregate
  | [] => return a
  | step :: rest => do
    let a ← runStep plan a step
    runSteps plan a rest

end

/-- Walks through a folder with a given scanner, or scans a single file. The walk is in at most `limit`
folders at a time. -/
def walkWith (limit : Nat) (scan : (path name : String) → Job FileReport) (recursive : Bool)
    (path : String) (root : Option String) : Job Aggregate := do
  let plan : Plan := ⟨scan, root.getD path⟩
  let name ← plan.nameOf path
  if ← Job.ask (·.isFolder path) then
    let w ← get
    runSteps plan (.empty name) (Step.itinerary limit w.volume recursive path)
  else if isSource path then
    plan.mergeFile (.empty name) path
  else
    Job.notify .warning s!"Skipping non-MATLAB file: {name}"
    return .empty name

/-- Scans a file on a host. -/
def scanOn {R : Type} [Criterion R] (host : Host) (setup : Setup) (rules : List R)
    (options : Options) (path name : String) : Job FileReport :=
  (Scan.partsOn host setup rules options).run options path (some name)

/-- Walks through a folder on a bare host and the standard stack, or scans a single file. -/
def walk (setup : Setup) (rules : List Rule) (options : Options) (path : String)
    (root : Option String) : Job Aggregate :=
  walkWith Stack.standard.folders (scanOn .bare setup rules options) options.recursive path root

/-- Writes the summary of a run, as far as its numbers can be written. -/
def summarise (report : Aggregate) (fix : Bool) : Job Unit := do
  if !report.isTableWritable fix then throw .numberUnwritable
  Job.emit (.summary report fix)
  if !report.areTotalsWritable fix then throw .numberUnwritable
  if report.totals.average.isNone then throw .meanTooLarge

/-- Checks a target: a folder or a source file. Anything else is passed over. -/
def check (setup : Setup) (rules : List Rule) (options : Options) (target : String) :
    Job Aggregate := do
  let isFolder ← Job.ask (·.isFolder target)
  let isFile ← Job.ask (·.isFile target)
  if isFolder || (isFile && isSource target) then
    Job.notify .info s!"Starting style check for: {target}"
    let report ← walk setup rules options target none
    summarise report options.fix
    return report
  else
    Job.notify .warning s!"Skipping {target}: not a directory or a {sourceExtension} file."
    return .empty target

end MatlabTidy.Walk
