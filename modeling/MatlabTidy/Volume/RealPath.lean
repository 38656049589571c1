import MatlabTidy.Volume.Basic

/-!
# Real paths

The real path of a path text has no links in it. Unlike resolution it is not stopped by names that
lead nowhere, which are kept, nor by a link that leads back to itself, which is kept with the text
behind it, unread. Only a name that no system can look up has no real path, and links that stand too
deep inside of each other.
-/

namespace MatlabTidy

/-- Why a path text has no real path. -/
inductive JourneyFault where
  | embeddedNull
  | tooDeep
  deriving DecidableEq, Repr

/-- How a journey ends. -/
inductive Arrival where
  /-- At a path without links. -/
  | real (path : Path)
  /-- At a link that leads back to itself; the text is that link and what stands behind it. -/
  | stuck (text : String)

/-- A journey: its end and the links met on it, with the paths that they lead to once these are
known. -/
structure Journey where
  arrival : Arrival
  seen : List (Path × Option Path)

namespace Volume

/-- The place of a path that holds double dots in front only. -/
def placeOf (v : Volume) (path : Path) : Place :=
  if path.slashes = 0 then Path.resolveDots (v.here ++ path.names) else path.names

/-- The target of the link that a path stands for, if it stands for one. -/
def linkAt? (v : Volume) (path : Path) : Except JourneyFault (Option String) :=
  match checkText path.text, v.node? (v.placeOf path) with
  | .error .embeddedNull, _ => .error .embeddedNull
  | .ok _, some (.link target) => .ok (some target)
  | _, _ => .ok none

/-- What stands between the slashes of a path text. -/
def segments (path : String) : List String := (Text.cutAt '/' path.toList).map String.ofList

/-- Follows the segments of a path text, and links at most `depth` deep inside of each other. -/
def journey (v : Volume) (depth : Nat) (path : Path) (seen : List (Path × Option Path)) :
    List String → Except JourneyFault Journey
  | [] => .ok ⟨.real path, seen⟩
  | step :: rest =>
    if step = "" ∨ step = "." then v.journey depth path seen rest
    else if step = ".." then v.journey depth path.outer seen rest
    else
      let next := path.child step
      match v.linkAt? next with
      | .error fault => .error fault
      | .ok none => v.journey depth next seen rest
      | .ok (some target) =>
        match seen.lookup next with
        | some (some known) => v.journey depth known seen rest
        | some none => .ok ⟨.stuck (Path.join next.text ("/".intercalate rest)), seen⟩
        | none =>
          match depth with
          | 0 => .error .tooDeep
          | depth + 1 =>
            match v.journey depth (if isAbsolute target then ⟨1, []⟩ else path)
              ((next, none) :: seen) (segments target) with
            | .error fault => .error fault
            | .ok ⟨.real known, seen⟩ => v.journey (depth + 1) known ((next, some known) :: seen) rest
            | .ok ⟨.stuck text, seen⟩ =>
              .ok ⟨.stuck (Path.join text ("/".intercalate rest)), seen⟩
termination_by segments => (depth, segments.length)

/-- The real path of a path text, when links are followed so deep inside of each other. The dots behind
a link that leads back to itself are removed textually. -/
def realPath (v : Volume) (links : Nat) (path : String) : Except JourneyFault Path := do
  let path := (Path.ofString path).text
  let start : Path := if isAbsolute path then ⟨1, []⟩ else ⟨0, []⟩
  let reached ← v.journey links start [] (segments path)
  match reached.arrival with
  | .real path => return Path.absolute v.hereText path.text
  | .stuck text => return Path.absolute v.hereText text

end Volume

end MatlabTidy
