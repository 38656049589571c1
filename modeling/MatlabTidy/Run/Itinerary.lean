import MatlabTidy.Run.Scan
import MatlabTidy.Stack

/-!
# Itineraries

What a walk through a folder is going to do is decided before it does anything: which files it
scans, which folders it enters and what it passes over. This can be said beforehand because scanning
changes files only, and no folder. A folder is recognised by its place, so that one that is reached
again through a link is passed over, and the walk enters every folder at most once. It is in only so
many folders at a time.
-/

namespace MatlabTidy

/-- A step of a walk. -/
inductive Step where
  /-- A source file is scanned. -/
  | scan (path : String)
  /-- A file that is no source is passed over. -/
  | skipFile (path : String)
  /-- A subfolder is passed over, because the walk is not recursive. -/
  | skipFolder (path : String)
  /-- A folder that was entered before is passed over. -/
  | skipVisited (path : String)
  /-- A subfolder is entered. -/
  | enter (path : String) (steps : List Step)
  /-- An entry cannot be looked up, or a folder not be entered. -/
  | fail (failure : Failure)

namespace Step

/-- The steps for the entries of a folder, and the folders visited after them. `enter` gives the
steps inside of a subfolder. -/
def ofEntries (v : Volume) (recursive : Bool)
    (enter : List Place → String → List Step × List Place) :
    List Place → List String → List Step × List Place
  | visited, [] => ([], visited)
  | visited, entry :: rest =>
    let (step, visited) : Step × List Place :=
      match v.isFolder entry with
      | .error e => (.fail (.access e), visited)
      | .ok false => (if isSource entry then .scan entry else .skipFile entry, visited)
      | .ok true =>
        if !recursive then (.skipFolder entry, visited)
        else
          match v.identity entry with
          | .error e => (.fail (.access e), visited)
          | .ok place =>
            if visited.contains place then (.skipVisited entry, visited)
            else
              let (steps, visited) := enter visited entry
              (.enter entry steps, visited)
    let (steps, visited) := ofEntries v recursive enter visited rest
    (step :: steps, visited)

/-- The steps inside of a folder, and the folders visited after them, when the walk can go on into so
many folders inside of each other. -/
def ofFolder (v : Volume) (recursive : Bool) :
    (depth : Nat) → List Place → String → List Step × List Place
  | 0, visited, _ => ([.fail .tooDeep], visited)
  | depth + 1, visited, path =>
    match v.identity path with
    | .error e => ([.fail (.access e)], visited)
    | .ok place =>
      match v.entries path with
      | .error e => ([.fail (.access e)], place :: visited)
      | .ok entries =>
        ofEntries v recursive (ofFolder v recursive depth) (place :: visited) entries

/-- The steps of a walk through a folder, which is in at most `limit` folders at a time. -/
def itinerary (limit : Nat) (v : Volume) (recursive : Bool) (path : String) : List Step :=
  (ofFolder v recursive limit [] path).1

end Step

end MatlabTidy
