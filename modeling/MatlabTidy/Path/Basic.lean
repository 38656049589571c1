import MatlabTidy.Text.Lines

/-!
# Path texts

A path text is read as a number of leading slashes and a list of names. Empty names and single
dots are dropped; two leading slashes are kept apart from one, and three or more count as one.
`Path.absolute` places a text below the current directory and removes double dots textually, and
`Path.displayName` shows a path relative to a root that it lies in. Nothing here looks at files.
-/

namespace MatlabTidy

/-- A path: its leading slashes (none, one or two) and its names. -/
structure Path where
  slashes : Nat
  names : List String
  deriving DecidableEq, Repr

namespace Path

/-- The parts of a path text, without empty parts and single dots. -/
def parts (text : String) : List String :=
  ((Text.cutAt '/' text.toList).map String.ofList).filter fun part => part ≠ "" ∧ part ≠ "."

/-- The leading slashes that count. -/
def leading (text : String) : Nat :=
  match (text.toList.takeWhile (· = '/')).length with
  | 0 => 0
  | 2 => 2
  | _ => 1

/-- Reads a path text. -/
def ofString (text : String) : Path := ⟨leading text, parts text⟩

/-- The text of a path; a path of no names is a single dot. -/
def text (p : Path) : String :=
  if p.slashes = 0 ∧ p.names = [] then "."
  else String.ofList (List.replicate p.slashes '/') ++ "/".intercalate p.names

/-- The last name, or the empty text. -/
def name (p : Path) : String := p.names.getLast?.getD ""

/-- The path without its last name. -/
def parent (p : Path) : Path := ⟨p.slashes, p.names.dropLast⟩

/-- The path with one more name. -/
def child (p : Path) (name : String) : Path := ⟨p.slashes, p.names ++ [name]⟩

/-- The path of the folder around. Double dots in front of a relative path stay, and there is nothing
around the top. -/
def outer (p : Path) : Path :=
  match p.names.getLast? with
  | none => if p.slashes = 0 then p.child ".." else p
  | some last => if last = ".." then p.child ".." else p.parent

/-- The last name from its last dot on, unless the dot is its first or its last character. -/
def suffix (p : Path) : String :=
  let chars := p.name.toList
  let tail := (chars.reverse.takeWhile (· ≠ '.')).reverse
  if tail ≠ [] ∧ tail.length + 1 < chars.length then String.ofList ('.' :: tail) else ""

/-- Removes each double dot together with the name before it. -/
def resolveDots (names : List String) : List String :=
  names.foldl (fun kept name => if name = ".." then kept.dropLast else kept ++ [name]) []

/-- The path text of an entry of a directory. -/
def entry (directory name : String) : String :=
  if directory.toList.getLast? = some '/' then directory ++ name else directory ++ "/" ++ name

/-- A path text behind another one; one that starts at the top stands alone. -/
def join (front behind : String) : String :=
  if behind.toList.head? = some '/' then behind else entry front behind

/-- The absolute path of a text, by the text alone. -/
def absolute (here text : String) : Path :=
  let full := ofString (join here text)
  ⟨full.slashes, resolveDots full.names⟩

/-- The names that lead from one path to another below it. -/
def below? (root p : Path) : Option (List String) :=
  if root.slashes = p.slashes ∧ root.names.isPrefixOf p.names then
    some (p.names.drop root.names.length)
  else
    none

/-- The name by which a path is shown: relative to the root if it lies below it, else the path
itself. -/
def displayName (here path : String) (root : Option String) : String :=
  match root with
  | none => (ofString path).text
  | some root =>
    match (absolute here root).below? (absolute here path) with
    | some (name :: names) => "/".intercalate (name :: names)
    | _ => (ofString path).text

end Path

end MatlabTidy
