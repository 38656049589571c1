import MatlabTidy.Run.Assess
import MatlabTidy.Run.Host
import MatlabTidy.Run.Line

/-!
# Scanning a file

A source file is assessed by the code checker and read line by line. When fixing, the lines are
written to a temporary file next to the source, which is moved over the source when all lines have
been written. If anything fails before that, the temporary file is removed and the source stays as
it is.
-/

namespace MatlabTidy

/-- The surroundings of a run, which do not change during it. -/
structure Setup where
  /-- The name of the encoding of sources. -/
  encoding : String
  /-- The code checker, if it is enabled. -/
  checker : Option Checker
  /-- What the call of the code checker for a file comes to. -/
  process : String → ProcessOutcome
  /-- Files that cannot be replaced, with the system's explanation. -/
  locked : String → Option String

/-- The extension of source files. -/
def sourceExtension : String := ".m"

/-- Whether a path text has the extension of source files. -/
def isSource (path : String) : Bool := (Path.ofString path).suffix = sourceExtension

namespace Scan

/-- The assessment of a file, if the code checker is enabled. -/
def assess (setup : Setup) (path : String) : Job Assessment :=
  match setup.checker with
  | none => return .none
  | some checker => checker.check path (setup.process path)

variable {R E : Type} [Criterion R] [Encoder E]

/-- Scans the lines of a file from the given number on; gives the bytes to be written, if the lines
are to be written at all, and the counts. -/
def scanLines (encoder : E) (rules : List R) (options : Options) (number : Nat) :
    List (List Char) → Job (List UInt8 × List Count)
  | [] => return ([], rules.map fun _ => .zero)
  | raw :: rest => do
    let (text, counts) ← Line.scan rules options number raw
    let (bytes, encoder) ←
      if options.fix then Job.ofExcept id (Encoder.write encoder number text)
      else pure ([], encoder)
    let (others, otherCounts) ← scanLines encoder rules options (number + 1) rest
    return (bytes ++ others, Count.addAll counts otherCounts)

/-- Scans the lines that a file delivers before it is at its end, or before the delivery fails. -/
def scanFeed (encoder : E) (rules : List R) (options : Options) (lines : List (List Char))
    (failure : Option Failure) : Job (List UInt8 × List Count) := do
  let result ← scanLines encoder rules options 1 lines
  match failure with
  | some failure => throw failure
  | none => return result

/-- Scans what a file delivers. -/
def scanDelivery (charset : Charset) (rules : List R) (options : Options)
    (delivery : Delivery) : Job (List UInt8 × List Count) :=
  scanFeed charset rules options delivery.lines (delivery.failure.map .decode)

/-- Runs a job that fills a temporary file, and removes the file if the job fails. -/
def guarding {α : Type} (temp : Place) (job : Job α) : Job α :=
  tryCatch job fun failure => do
    Job.modifyVolume (·.erase temp)
    throw failure

/-- Moves the temporary file over the source; gives the system's explanation if that fails. -/
def moveInPlace (locked : String → Option String) (temp : Place) (path : String) :
    Job (Option String) := do
  match locked path with
  | some cause => return some cause
  | none =>
    let w ← get
    match w.volume.replace temp path with
    | .error e => return some e.message
    | .ok volume =>
      set { w with volume := volume }
      return none

/-- The report of a file. -/
def report (name : String) (rules : List R) (counts : List Count) (assessment : Assessment) :
    FileReport where
  name := name
  reasons := rules.map Criterion.reason
  errors := counts.map fun count => count.errors
  fixes := counts.map fun count => count.fixes
  score := assessment.score
  advisories := assessment.advisories

/-- Writes the report of a file on the console of a host. -/
def tell (host : Host) (report : FileReport) (fix verbose : Bool) : Job Unit :=
  match host.consoleFault? report fix verbose with
  | some fault => throw fault.failure
  | none => Job.emit (.fileDone report fix verbose)

/-- Reports that a file is finished, on a host. -/
def finishOn (host : Host) (report : FileReport) (fix verbose : Bool) : Job Unit := do
  if !report.isTallyWritable fix then throw .numberUnwritable
  tell host report fix verbose

/-- Reports that a file is finished, on a bare host. -/
def finish : FileReport → (fix verbose : Bool) → Job Unit := finishOn .bare

/-- What the scan of a file is made of. -/
structure Parts (R : Type) where
  rules : List R
  /-- Asks the code checker about a file. -/
  assess : (path : String) → Job Assessment
  /-- Opens a file, for a job that scans its lines and gives the bytes to be written and the counts. -/
  openLines : (path : String) → Job (Job (List UInt8 × List Count))
  /-- Files that cannot be replaced, with the system's explanation. -/
  locked : (path : String) → Option String
  /-- Reports that a file is finished. -/
  finish : FileReport → (fix verbose : Bool) → Job Unit

namespace Parts

/-- Scans the lines of a file and writes it again. -/
def replaceFile (parts : Parts R) (options : Options) (path name : String) (assessment : Assessment)
    (lines : Job (List UInt8 × List Count)) : Job FileReport := do
  let (volume, temp) ← Job.ask (·.makeTemporary path)
  Job.modifyVolume fun _ => volume
  let (bytes, counts) ← guarding temp.place lines
  Job.modifyVolume (·.write temp.place bytes)
  let report := report name parts.rules counts assessment
  match ← moveInPlace parts.locked temp.place path with
  | some cause =>
    Job.modifyVolume (·.erase temp.place)
    parts.finish report.withoutFixes true options.verbose
    throw (.replaceFailed path report cause)
  | none =>
    Job.log .debug .scanning s!"Rewrote {path} ({report.totalFixes} fixes)"
    parts.finish report options.fix options.verbose
    return report

/-- Scans the source file at a path; it is shown under the given name, if there is one. -/
def run (parts : Parts R) (options : Options) (path : String) (shownAs : Option String) :
    Job FileReport := do
  if !isSource path then
    throw (.unsupportedExtension path (Path.ofString path).suffix)
  let name := match shownAs with
    | some name => if name.isEmpty then (Path.ofString path).text else name
    | none => (Path.ofString path).text
  let assessment ← parts.assess path
  let lines ← parts.openLines path
  if options.fix then
    parts.replaceFile options path name assessment lines
  else
    let (_, counts) ← lines
    let report := report name parts.rules counts assessment
    parts.finish report options.fix options.verbose
    return report

end Parts

/-- Opens a file for reading in the encoding of a name. A name that can be looked up is looked up
only when the file could be opened. -/
def openSource (path encoding : String) : Job (Charset × Delivery) := do
  Job.ofExcept .charset (Charset.checkName encoding)
  let bytes ← Job.ask (·.read path)
  let charset ← Job.ofExcept .charset (Charset.ofName encoding)
  return (charset, charset.read bytes)

/-- Scans the lines of a file in an encoding. -/
def scanBytes (encoding : Charset ⊕ Codec) (rules : List R) (options : Options) (bytes : List UInt8) :
    Job (List UInt8 × List Count) :=
  match encoding with
  | .inl charset => scanDelivery charset rules options (charset.read bytes)
  | .inr codec =>
    let (lines, fault) := codec.read bytes
    scanFeed (⟨codec, []⟩ : Codec.Writer) rules options lines (fault.map CodecFault.failure)

/-- Opens a file on a host, for the scan of its lines. -/
def openLines (host : Host) (setup : Setup) (rules : List R) (options : Options) (path : String) :
    Job (Job (List UInt8 × List Count)) := do
  Job.ofExcept .charset (Charset.checkName setup.encoding)
  let bytes ← Job.ask (·.read path)
  match host.refusal? path with
  | some explanation => throw (.access ⟨.refused explanation, path⟩)
  | none =>
    let encoding ← Job.ofExcept .charset (host.encoding setup.encoding)
    return scanBytes encoding rules options bytes

/-- The parts of a scan on a host. -/
def partsOn (host : Host) (setup : Setup) (rules : List R) (options : Options) : Parts R where
  rules := rules
  assess := assess setup
  openLines := openLines host setup rules options
  locked := setup.locked
  finish := finishOn host

/-- Scans the source file at a path on a bare host. -/
def file (setup : Setup) (rules : List R) (options : Options) (path : String)
    (shownAs : Option String) : Job FileReport :=
  (partsOn .bare setup rules options).run options path shownAs

end Scan

end MatlabTidy
