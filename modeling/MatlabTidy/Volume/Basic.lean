import MatlabTidy.Path.Basic
import MatlabTidy.Text.Quoted

/-!
# Volumes

A volume is a tree of files, folders and symbolic links, held as a list of places with what stands
there. A folder lists its entries in an order that the volume remembers, so that a file that was
removed and written again has its old position; other entries come last. Path texts are resolved the
way a POSIX system does: name by name from the current folder or from the top, following links, of
which at most `mostLinks` are followed.
-/

namespace MatlabTidy

/-- A place in a volume: the names that lead to it from the top. -/
abbrev Place := List String

/-- What stands at a place. -/
inductive Node where
  | file (bytes : List UInt8) (mode : Nat)
  | folder
  | link (target : String)
  deriving DecidableEq, Repr

/-- Files, folders and links, and the current folder. -/
structure Volume where
  nodes : List (Place × Node)
  /-- The places that come first when their folder is listed, in this order, if they exist. -/
  order : List Place
  here : Place
  deriving DecidableEq, Repr

/-- Why a path cannot be used. -/
inductive AccessCause where
  | missing
  | notFolder
  | isFolder
  | tooManyLinks
  | nameTooLong
  | embeddedNull
  /-- The system does not let the file be read, with its explanation. -/
  | refused (explanation : String)
  deriving DecidableEq, Repr

/-- A path that cannot be used, and why. -/
structure AccessError where
  cause : AccessCause
  path : String
  deriving DecidableEq, Repr

/-- The error in words, with the path in quotes. -/
def AccessError.message (e : AccessError) : String :=
  match e.cause with
  | .missing => "[Errno 2] No such file or directory: " ++ Text.quoted e.path
  | .notFolder => "[Errno 20] Not a directory: " ++ Text.quoted e.path
  | .isFolder => "[Errno 21] Is a directory: " ++ Text.quoted e.path
  | .nameTooLong => "[Errno 36] File name too long: " ++ Text.quoted e.path
  | .tooManyLinks => "[Errno 40] Too many levels of symbolic links: " ++ Text.quoted e.path
  | .embeddedNull => "embedded null byte"
  | .refused explanation => explanation

namespace Volume

/-- The links that are followed in one resolution. -/
def mostLinks : Nat := 40

/-- The bytes that a name may have. -/
def mostNameBytes : Nat := 255

/-- The bytes that a path text may have. -/
def mostPathBytes : Nat := 4095

/-- What stands at a place; the top is a folder. -/
def node? (v : Volume) (place : Place) : Option Node :=
  if place = [] then some .folder else v.nodes.lookup place

/-- Puts a node at a place. -/
def put (v : Volume) (place : Place) (node : Node) : Volume :=
  if v.nodes.any (·.1 = place) then
    { v with nodes := v.nodes.map fun entry => if entry.1 = place then (place, node) else entry }
  else
    { v with nodes := v.nodes ++ [(place, node)] }

/-- Removes what stands at a place. -/
def erase (v : Volume) (place : Place) : Volume :=
  { v with nodes := v.nodes.filter fun entry => entry.1 ≠ place }

/-- Remembers the position of a place in the listing of its folder. -/
def remember (v : Volume) (place : Place) : Volume :=
  if v.order.contains place then v else { v with order := v.order ++ [place] }

/-- The names of those places that stand in a folder. -/
def namesBelow (folder : Place) (places : List Place) : List String :=
  places.filterMap fun place =>
    if place ≠ [] ∧ place.dropLast = folder then place.getLast? else none

/-- The names in a folder, in listing order. -/
def namesIn (v : Volume) (folder : Place) : List String :=
  let present := namesBelow folder (v.nodes.map (·.1))
  let remembered := (namesBelow folder v.order).filter present.contains
  remembered ++ present.filter fun name => !remembered.contains name

/-- The names of a path text, single and double dots included. -/
def namesOf (path : String) : List String :=
  ((Text.cutAt '/' path.toList).map String.ofList).filter (· ≠ "")

/-- Whether a slash ends the path text. -/
def endsInSlash (path : String) : Bool := path.toList.getLast? = some '/'

/-- The steps of a path text; a slash at the end asks for a folder, as a single dot does. -/
def steps (path : String) : List String :=
  let names := namesOf path
  if names ≠ [] ∧ endsInSlash path then names ++ ["."] else names

/-- Whether a path text starts at the top. -/
def isAbsolute (path : String) : Bool := path.toList.head? = some '/'

/-- The place that the steps lead to. A link at the last step is followed only if asked for; at
most `budget` links are followed. -/
def follow (v : Volume) (followLast : Bool) (budget : Nat) (place : Place) :
    List String → Except AccessCause Place
  | [] => .ok place
  | step :: rest =>
    if v.node? place ≠ some .folder then .error .notFolder
    else if step = "." then v.follow followLast budget place rest
    else if step = ".." then v.follow followLast budget place.dropLast rest
    else if mostNameBytes < step.utf8ByteSize then .error .nameTooLong
    else
      match v.node? (place ++ [step]) with
      | none => .error .missing
      | some (.link target) =>
        if rest = [] ∧ !followLast then .ok (place ++ [step])
        else
          match budget with
          | 0 => .error .tooManyLinks
          | budget + 1 =>
            v.follow followLast budget (if isAbsolute target then [] else place)
              (steps target ++ rest)
      | some _ => v.follow followLast budget (place ++ [step]) rest
termination_by steps => (budget, steps.length)

/-- The folder in which a path text starts. -/
def startOf (v : Volume) (path : String) : Place := if isAbsolute path then [] else v.here

/-- Refuses texts that no system takes as a path. -/
def checkText (path : String) : Except AccessCause Unit :=
  if path.toList.contains (Char.ofNat 0) then .error .embeddedNull
  else if path.isEmpty then .error .missing
  else if mostPathBytes < path.utf8ByteSize then .error .nameTooLong
  else .ok ()

/-- The place that a path text leads to, links followed. -/
def resolve (v : Volume) (path : String) : Except AccessCause Place := do
  checkText path
  v.follow true mostLinks (v.startOf path) (steps path)

/-- The place that the last name of a path text has or would have, itself not followed. A slash
behind the name asks for a folder, and no folder is located this way. -/
def locate (v : Volume) (path : String) : Except AccessCause Place := do
  checkText path
  match (namesOf path).getLast? with
  | none => .error .isFolder
  | some last =>
    let parent ← v.follow true mostLinks (v.startOf path) (namesOf path).dropLast
    if v.node? parent ≠ some .folder then .error .notFolder
    else if mostNameBytes < last.utf8ByteSize then .error .nameTooLong
    else if last = "." ∨ last = ".." then .error .isFolder
    else if endsInSlash path then
      .error <| match v.node? (parent ++ [last]) with
        | none => .missing
        | some .folder => .isFolder
        | some _ => .notFolder
    else .ok (parent ++ [last])

/-- The current folder as a path text. -/
def hereText (v : Volume) : String := (⟨1, v.here⟩ : Path).text

end Volume

end MatlabTidy
