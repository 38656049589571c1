import MatlabTidy.Volume.Basic

/-!
# Access to a volume by path

Questions about a path, listing, reading, and the three steps of a replacement in place: a temporary
file is made next to the target (`makeTemporary`), filled (`write`), and moved over the target
(`replace`). The target's permissions pass to the new file. A target that is a link is itself
replaced, not what it leads to.
-/

namespace MatlabTidy.Volume

/-- Names the path in an error. -/
def withPath {α : Type} (path : String) : Except AccessCause α → Except AccessError α
  | .ok a => .ok a
  | .error cause => .error ⟨cause, path⟩

/-- The answer of a question about a path; a path that leads nowhere answers no. -/
def asks (v : Volume) (path : String) (test : Node → Bool) : Except AccessError Bool :=
  let path := (Path.ofString path).text
  match v.resolve path with
  | .ok place => .ok ((v.node? place).any test)
  | .error .nameTooLong => .error ⟨.nameTooLong, path⟩
  | .error _ => .ok false

/-- Whether the path leads to a folder. -/
def isFolder (v : Volume) (path : String) : Except AccessError Bool := v.asks path (· = .folder)

/-- Whether the path leads to a file. -/
def isFile (v : Volume) (path : String) : Except AccessError Bool :=
  v.asks path fun
    | .file _ _ => true
    | _ => false

/-- The place that the path leads to; two paths lead to the same thing when it is the same. -/
def identity (v : Volume) (path : String) : Except AccessError Place := withPath path (v.resolve path)

/-- The path texts of the entries of a folder, in listing order. -/
def entries (v : Volume) (path : String) : Except AccessError (List String) :=
  withPath path do
    let place ← v.resolve path
    if v.node? place = some .folder then
      return (v.namesIn place).map (Path.entry path)
    else
      .error .notFolder

/-- The bytes of a file. -/
def read (v : Volume) (path : String) : Except AccessError (List UInt8) :=
  withPath path do
    let place ← v.resolve path
    match v.node? place with
    | some (.file bytes _) => return bytes
    | some .folder => .error .isFolder
    | _ => .error .missing

/-- The permissions of folders: everybody may look into them, and their owner may change them. -/
def folderMode : Nat := 0o755

/-- The permissions of what the path leads to. -/
def mode? (v : Volume) (path : String) : Option Nat :=
  match v.resolve (Path.ofString path).text with
  | .ok place =>
    match v.node? place with
    | some (.file _ mode) => some mode
    | some .folder => some folderMode
    | _ => none
  | .error _ => none

/-- The permissions of a temporary file: its owner may read and write it. -/
def temporaryMode : Nat := 0o600

/-- The name of the `n`th temporary file for a target. -/
def temporaryName (target : String) (n : Nat) : String := s!".{target}.{n}.tmp"

/-- The bytes by which the name of a temporary file may be longer than that of its target. -/
def temporaryBytes : Nat := 14

/-- The first name of a temporary file that the folder does not have. -/
def freshName (v : Volume) (folder : Place) (target : String) : String :=
  temporaryName target
    (((List.range (v.nodes.length + 1)).find? fun n =>
      (v.node? (folder ++ [temporaryName target n])).isNone).getD v.nodes.length)

/-- A temporary file: its place and the path text of its folder. -/
structure Temporary where
  place : Place
  folder : String
  deriving DecidableEq, Repr

/-- Makes an empty temporary file in the folder of the target. -/
def makeTemporary (v : Volume) (target : String) : Except AccessError (Volume × Temporary) :=
  let target := Path.ofString target
  let folder := (Path.absolute v.hereText target.parent.text).text
  let path := Path.entry folder (temporaryName target.name 0)
  withPath path do
    checkText path
    let place ← v.resolve folder
    if mostNameBytes < target.name.utf8ByteSize + temporaryBytes then
      .error .nameTooLong
    else if v.node? place = some .folder then
      let temp := place ++ [v.freshName place target.name]
      return (v.put temp (.file [] temporaryMode), ⟨temp, folder⟩)
    else
      .error .notFolder

/-- Fills a file, keeping its permissions. -/
def write (v : Volume) (place : Place) (bytes : List UInt8) : Volume :=
  match v.node? place with
  | some (.file _ mode) => v.put place (.file bytes mode)
  | _ => v

/-- Gives a file the permissions `mode`. -/
def setMode (v : Volume) (place : Place) (mode : Nat) : Volume :=
  match v.node? place with
  | some (.file bytes _) => v.put place (.file bytes mode)
  | _ => v

/-- Moves a temporary file over a target, with the permissions that the target had. -/
def replace (v : Volume) (temp : Place) (target : String) : Except AccessError Volume :=
  withPath target do
    let v := match v.mode? target with
      | some mode => v.setMode temp mode
      | none => v
    let place ← v.locate target
    match v.node? temp, v.node? place with
    | none, _ => .error .missing
    | some _, some .folder => .error .isFolder
    | some node, _ => return (v.put place node).erase temp

/-- Removes a file or a link, if there is one. -/
def discard (v : Volume) (path : String) : Except AccessError Volume :=
  match v.locate path with
  | .ok place =>
    match v.node? place with
    | none => .ok v
    | some .folder => .error ⟨.isFolder, path⟩
    | some _ => .ok (v.erase place)
  | .error .missing => .ok v
  | .error cause => .error ⟨cause, path⟩

/-- Makes the folders that lead from a place along the names. -/
def addFolders (v : Volume) (place : Place) : List String → Volume × Place
  | [] => (v, place)
  | name :: rest =>
    let next := place ++ [name]
    let v := v.remember next
    match v.node? next with
    | none => (v.put next .folder).addFolders next rest
    | some (.link target) =>
      match v.follow true mostLinks (if isAbsolute target then [] else place) (steps target) with
      | .ok next => v.addFolders next rest
      | .error _ => v.addFolders next rest
    | some _ => v.addFolders next rest

/-- Adds a node at a path below the current folder, and the folders that lead to it. -/
def add (v : Volume) (path : String) (node : Node) : Volume :=
  let names := Path.parts path
  let (v, folder) := v.addFolders (v.startOf path) names.dropLast
  match names.getLast? with
  | some name => (v.remember (folder ++ [name])).put (folder ++ [name]) node
  | none => v

/-- The volume with another current folder. -/
def enter (v : Volume) (path : String) : Volume :=
  match v.resolve path with
  | .ok place => { v with here := place }
  | .error _ => v

/-- The places whose node differs between two volumes, with the node of the second. -/
def changes (before after : Volume) : List (Place × Option Node) :=
  let places := before.nodes.map (·.1) ++
    (after.nodes.map (·.1)).filter fun place => (before.node? place).isNone
  places.filterMap fun place =>
    if before.node? place = after.node? place then none else some (place, after.node? place)

end MatlabTidy.Volume
