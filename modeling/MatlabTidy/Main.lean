import MatlabTidy.Command.Program
import MatlabTidy.Command.Streams

/-!
# The command line

The program itself is a computation on a `Volume`. Here the part of the file system that a run can
look at is read into a volume, the program is run on it, its output is printed and the files that it
changed are written back. A run that asks for a key stops and is run again with one key more, so
that its output grows with the answers. Other programs are not started from here: the code checker
counts as missing.
-/

namespace MatlabTidy.Main

/-- The pages of the command line. -/
def manual : Command.Manual where
  help :=
    "Usage: matlab-style [--help] COMMAND [ARGS]...\n\n"
      ++ "Style checks and fixes for MATLAB source files.\n\n"
      ++ "Commands:\n"
      ++ "  check TARGET  Check MATLAB sources against the style rules.\n"
      ++ "      --recursive, -r / --no-recursive, -R   Descend into subdirectories\n"
      ++ "      --verbose, -v / --quiet, -q            Print caret diagrams\n"
      ++ "      --fix / --no-fix                       Repair offending lines in place\n"
      ++ "      --debug                                Enable debug logging\n"
      ++ "  rules         List the active style rules in report order.\n"
      ++ "  unchecked     List style guidelines this linter does not check.\n"
  usage := "Usage: matlab-style [--help] COMMAND [ARGS]...\nTry 'matlab-style --help' for help.\n"

/-- The path text of a place. -/
def pathOf (place : Place) : String := (⟨1, place⟩ : Path).text

/-- The place of an absolute path text. -/
def placeOf (path : String) : Place := Path.parts path

/-- Whether the contents of a file matter to a run. -/
def isRead (name : String) : Bool := isSource name || name = Discovery.fileName

/-- Puts what stands at a place into the volume: the place itself, what a link leads to and, if
`deep`, all that is below a folder. What does not exist is left out. -/
partial def load (v : Volume) (place : Place) (deep : Bool) : IO Volume := do
  let path := (← IO.currentDir) / pathOf place
  try
    match (← path.symlinkMetadata).type with
    | .symlink =>
      let target := (← IO.FS.realPath path).toString
      let v := v.put place (.link target)
      if (v.node? (placeOf target)).isSome then return v else load v (placeOf target) deep
    | .dir =>
      let v := v.put place .folder
      if deep then
        (← path.readDir).foldlM (fun v entry => load v (place ++ [entry.fileName]) true) v
      else
        return v
    | _ =>
      let bytes ← if isRead (place.getLast?.getD "") then IO.FS.readBinFile path else pure .empty
      return v.put place (.file bytes.toList 0o644)
  catch _ => return v

/-- The part of the file system that a run with the given arguments looks at. -/
def snapshot (args : List String) : IO Volume := do
  let here := placeOf (← IO.currentDir).toString
  let mut v : Volume := ⟨[], [], here⟩
  for folder in (Discovery.outward ⟨1, here⟩).reverse do
    v ← load v folder.names false
    v ← load v (folder.child Discovery.fileName).names false
  match Command.request args with
  | .check target _ _ =>
    let start := v.startOf target
    let names := Path.parts target
    for n in List.range names.length do
      v ← load v (start ++ names.take n) false
    load v (start ++ names) true
  | _ => return v

/-- Writes the files back that a run changed. -/
def writeBack (before after : Volume) : IO Unit := do
  for (place, node) in before.changes after do
    let path := (← IO.currentDir) / pathOf place
    match node with
    | some (.file bytes _) =>
      if let some (.link _) := before.node? place then IO.FS.removeFile path
      IO.FS.writeBinFile path ⟨bytes.toArray⟩
    | some _ => pure ()
    | none => IO.FS.removeFile path

/-- Whether the run stopped because it needs another key. -/
def needsKey (events : List Event) : Bool :=
  events.any fun
    | .aborted => true
    | _ => false

/-- The part of an output that was not printed yet. -/
def unprinted (printed : Nat) (output : String) : String :=
  String.ofList (output.toList.drop printed)

/-- Runs the program with the keys that are known, prints what is new, and goes on with another
key if the run needs one. -/
partial def converse (v : Volume) (args : List String) (keys : List String)
    (shown told : Nat) : IO UInt32 := do
  let world : World := ⟨v, some keys, false, #[]⟩
  let (code, failure, after) : Nat × Option Failure × World :=
    match (Command.run Command.styleCheck (fun _ => .missing) args).run world with
    | .ok code w => (code, none, w)
    | .error failure w => (1, some failure, w)
  let events := after.events.toList
  let waiting := needsKey events
  let events := if waiting then events.dropLast else events
  let output := Command.standardOutput manual events
  let errors := Command.standardError manual .program events
  let out ← IO.getStdout
  let err ← IO.getStderr
  err.putStr (unprinted told errors)
  err.flush
  out.putStr (unprinted shown output)
  out.flush
  if waiting then
    match (← (← IO.getStdin).getLine).toList with
    | [] =>
      err.putStr (Command.standardError manual .program [.aborted])
      return 1
    | c :: _ => converse v args (keys ++ [String.ofList [c]]) output.length errors.length
  else
    writeBack v after.volume
    if let some failure := failure then err.putStr (failure.message ++ "\n")
    return code.toUInt32

end MatlabTidy.Main

/-- The program. -/
def main (args : List String) : IO UInt32 := do
  MatlabTidy.Main.converse (← MatlabTidy.Main.snapshot args) args [] 0 0
