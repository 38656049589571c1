import MatlabTidy.Config.Settings
import MatlabTidy.Config.Toml.Document
import MatlabTidy.Run.Job
import MatlabTidy.Stack
import MatlabTidy.Volume.RealPath

/-!
# Finding the settings

The settings stand in a section of the nearest `pyproject.toml`, at or above the folder in which the
search starts. A file that cannot be read as TOML counts as empty, with a warning, and so does a
section that is no table.
-/

namespace MatlabTidy.Discovery

/-- The name of the file that holds the settings. -/
def fileName : String := "pyproject.toml"

/-- The section of the settings. -/
def sectionName : String := "matlab-style"

/-- A path and the paths above it, from the inside out. -/
def outward (path : Path) : List Path :=
  (List.range (path.names.length + 1)).map fun n =>
    ⟨path.slashes, path.names.take (path.names.length - n)⟩

/-- The path text of the settings file in a folder. -/
def fileIn (folder : Path) : String := (folder.child fileName).text

/-- The failure of a search whose start has no real path. -/
def lost (start : String) : JourneyFault → Failure
  | .embeddedNull => .access ⟨.embeddedNull, start⟩
  | .tooDeep => .tooDeep

/-- The nearest settings file at or above the folder that a path leads to. -/
def findWith (stack : Stack) (start : Option String) : Job (Option String) := do
  let v := (← get).volume
  let here ← match start with
    | some start => Job.ofExcept (lost start) (v.realPath stack.links start)
    | none => pure ⟨1, v.here⟩
  match v.resolve here.text with
  | .error .tooManyLinks => throw (.linkLoop here.text)
  | .error .embeddedNull => throw (.access ⟨.embeddedNull, here.text⟩)
  | _ => ((outward here).map fileIn).findM? fun file => Job.ask (·.isFile file)

/-- The search on the standard stack. -/
def find (start : Option String) : Job (Option String) := findWith .standard start

/-- The entry of a table, when it is there and not empty. -/
def filled? (t : Table) (key : String) : Option Value :=
  (t.lookup key).filter fun value => !value.isEmpty

/-- The section of the settings in a document. -/
def sectionOf (document : Table) : Job (Option Value) :=
  match filled? document "tool" with
  | none => return none
  | some (.table tool) => return filled? tool sectionName
  | some value => throw (.notSettings value.kind)

/-- Warns that a settings file cannot be read. -/
def refuse (file : String) (cause : String) : Job Table := do
  Job.log .warning .root s!"Configuration Warning: could not parse {file}: {cause}"
  return []

/-- What stands for the description of a document's fault. -/
def faultText : String := "<toml error>"

/-- Reads the settings from a file. -/
def readFile (stack : Stack) (file : String) : Job Table := do
  let v := (← get).volume
  match v.read file with
  | .error e => refuse file e.message
  | .ok bytes =>
    let text ← Job.ofExcept .decode (Charset.utf8.decode bytes)
    match Toml.parse stack.document text with
    | .error .malformed => refuse file faultText
    | .error (.numberTooLong digits) => throw (.numberTooLong digits)
    | .error .tooDeep => throw .tooDeep
    | .ok document =>
      match ← sectionOf document with
      | some (.table settings) =>
        Job.log .debug .settingsFile s!"Loaded [tool.{sectionName}] from {file}"
        return settings
      | some _ =>
        Job.log .warning .root s!"Configuration Warning: [tool.{sectionName}] must be a table."
        return []
      | none =>
        Job.log .debug .settingsFile s!"Loaded [tool.{sectionName}] from {file}"
        return []

/-- The table of settings that holds for a folder. -/
def loadWith (stack : Stack) (start : Option String) : Job Table := do
  match ← findWith stack start with
  | some file => readFile stack file
  | none => return []

/-- The table of settings on the standard stack. -/
def load (start : Option String) : Job Table := loadWith .standard start

end MatlabTidy.Discovery
