import MatlabTidy.Config.Toml.Scalar

/-!
# TOML documents

A document is a list of lines: headers that open a table or add one to an array of tables, and
entries, which go into the table opened last. A dotted key leads through tables that it makes on
its way. What is written once stays as it is: a table opened by a header or made by a dotted key
cannot be opened again, and an inline table or array cannot be added to. `Toml.parse` reads a whole
document; every failure but that of an over-long integer or of values that stand too deep inside of
each other is `Error.malformed`.
-/

namespace MatlabTidy.Toml

/-- A key: the names that lead to an entry. -/
abbrev Key := List String

/-! ## Keys -/

/-- Characters of a key without quotes. -/
def isBareKeyChar (c : Char) : Bool := c.isAlphanum || c = '-' || c = '_'

/-- Whether a line can start an entry with the character. -/
def startsKey (c : Char) : Bool := isBareKeyChar c || c = '"' || c = '\''

/-- Reads one name of a key. -/
def keyPart (text : List Char) : Read String :=
  match lineString? text with
  | some read => read
  | none =>
    match Text.span? isBareKeyChar text with
    | some (name, rest) => .ok (String.ofList name, rest)
    | none => .error .malformed

/-- Reads a key; the number of its names is bounded by `steps`. -/
def key : (steps : Nat) → List Char → Except Error (Key × List Char)
  | 0, _ => .error .malformed
  | steps + 1, text => do
    let (name, rest) ← keyPart text
    match skipSpace rest with
    | '.' :: rest => do
      let (names, rest) ← key steps (skipSpace rest)
      return (name :: names, rest)
    | rest => return ([name], rest)

/-! ## Tables -/

/-- Changes the table behind a key; tables that are missing are made. Through an array of tables,
if that is allowed, the way leads into the last one. Any other value is in the way. -/
def alter (throughArrays : Bool) (change : Table → Option Table) : Key → Table → Option Table
  | [], t => change t
  | name :: names, t =>
    match t.lookup name with
    | none => (alter throughArrays change names []).map fun inner => t.put name (.table inner)
    | some (.table inner) =>
      (alter throughArrays change names inner).map fun inner => t.put name (.table inner)
    | some (.list items) =>
      match throughArrays, items.getLast? with
      | true, some (.table inner) =>
        (alter throughArrays change names inner).map fun inner =>
          t.put name (.list (items.dropLast ++ [.table inner]))
      | _, _ => none
    | some _ => none

/-- Adds an entry that the table does not have yet. -/
def addEntry (name : String) (value : Value) (t : Table) : Option Table :=
  if (t.lookup name).isSome then none else some (t.put name value)

/-- Adds an empty table to an array of tables. -/
def addToArray (name : String) (t : Table) : Option Table :=
  match t.lookup name with
  | none => some (t.put name (.list [.table []]))
  | some (.list items) => some (t.put name (.list (items ++ [.table []])))
  | some _ => none

/-- The value of an option, or the failure of a document. -/
def orMalformed {α : Type} : Option α → Except Error α
  | some a => .ok a
  | none => .error .malformed

/-- Whether one of the keys leads to the key or to a table around it. -/
def isWithin (keys : List Key) (k : Key) : Bool := k ≠ [] && keys.any (·.isPrefixOf k)

/-- Whether the value is closed once it is written. -/
def isCompound : Value → Bool
  | .list _ | .table _ => true
  | _ => false

/-! ## Values -/

/-- The text behind blanks, line feeds and comments; `steps` bounds the number of comments. -/
def skipBetween : (steps : Nat) → List Char → Except Error (List Char)
  | 0, text => .ok text
  | steps + 1, text => do
    let text := text.dropWhile isSpaceOrBreak
    match text with
    | '#' :: _ => do
      let rest ← skipComment text
      skipBetween steps rest
    | _ => return text

/-- The levels inside of a value that takes some for itself, of which `needed` must be there. -/
def descend (levels taken needed : Nat) : Except Error Nat :=
  if levels < needed then .error .tooDeep else .ok (levels - taken)

/-- The levels inside of an array. -/
def insideArray (levels : Nat) : Except Error Nat := descend levels 2 3

/-- The levels inside of an inline table. -/
def insideTable (levels : Nat) : Except Error Nat := descend levels 3 5

mutual

/-- Reads a value; `levels` are the levels that are left. -/
def value : (steps levels : Nat) → List Char → Except Error (Value × List Char)
  | 0, _, _ => .error .malformed
  | steps + 1, levels, text =>
    match text with
    | '[' :: rest => do
      let (items, rest) ← array steps (← insideArray levels) rest
      return (.list items, rest)
    | '\x7b' :: rest =>
      match skipSpace rest with
      | '\x7d' :: rest => .ok (.table [], rest)
      | rest => do
        let (entries, rest) ← inlineTable steps (← insideTable levels) [] [] rest
        return (.table entries, rest)
    | _ =>
      match string? text with
      | some read => read.map fun (s, rest) => (.text s, rest)
      | none =>
        match Text.skip? "true" text, Text.skip? "false" text with
        | some rest, _ => .ok (.bool true, rest)
        | _, some rest => .ok (.bool false, rest)
        | _, _ => ((moment? text).or (number? text)).getD (.error .malformed)

/-- Reads the items of an array up to its closing bracket. -/
def array : (steps levels : Nat) → List Char → Except Error (List Value × List Char)
  | 0, _, _ => .error .malformed
  | steps + 1, levels, text => do
    match ← skipBetween steps text with
    | ']' :: rest => return ([], rest)
    | text =>
      let (item, rest) ← value steps levels text
      match ← skipBetween steps rest with
      | ']' :: rest => return ([item], rest)
      | ',' :: rest =>
        let (items, rest) ← array steps levels rest
        return (item :: items, rest)
      | _ => .error .malformed

/-- Reads the entries of an inline table up to its closing brace; `closed` are the keys of the
entries that cannot be added to. -/
def inlineTable : (steps levels : Nat) → (closed : List Key) → Table → List Char →
    Except Error (Table × List Char)
  | 0, _, _, _, _ => .error .malformed
  | steps + 1, levels, closed, entries, text => do
    let (k, rest) ← key (text.length + 1) text
    match rest with
    | '=' :: rest =>
      let (v, rest) ← value steps levels (skipSpace rest)
      if isWithin closed k then .error .malformed
      else
        let entries ← orMalformed (alter false (addEntry (k.getLastD "") v) k.dropLast entries)
        match skipSpace rest with
        | '\x7d' :: rest => return (entries, rest)
        | ',' :: rest =>
          inlineTable steps levels (if isCompound v then k :: closed else closed) entries
            (skipSpace rest)
        | _ => .error .malformed
    | _ => .error .malformed

end

/-! ## Lines -/

/-- What was read of a document. -/
structure State where
  root : Table
  /-- The table that entries go into. -/
  header : Key
  /-- The tables that cannot be opened by a header, or by a dotted key of another one. -/
  opened : List Key
  /-- The tables that dotted keys made since the last header. -/
  dotted : List Key
  /-- The inline tables and arrays, which nothing can be added to. -/
  closed : List Key

namespace State

/-- Nothing was read. -/
def start : State := ⟨[], [], [], [], []⟩

/-- The proper beginnings of a key, behind the header. -/
def waypoints (s : State) (k : Key) : List Key :=
  (List.range (k.length - 1)).map fun i => s.header ++ k.take (i + 1)

/-- Adds an entry. -/
def addValue (s : State) (k : Key) (v : Value) : Except Error State := do
  let full := s.header ++ k
  let waypoints := s.waypoints k
  if waypoints.any s.opened.contains then .error .malformed
  else if isWithin s.closed full.dropLast then .error .malformed
  else
    let root ← orMalformed (alter true (addEntry (full.getLastD "") v) full.dropLast s.root)
    return { s with
      root := root
      dotted := s.dotted ++ waypoints
      closed := if isCompound v then full :: s.closed else s.closed }

/-- A header ends the time in which dotted keys may add to the tables that they made. -/
def settle (s : State) : State := { s with opened := s.opened ++ s.dotted, dotted := [] }

/-- Opens a table. -/
def openTable (s : State) (k : Key) : Except Error State :=
  if s.opened.contains k || isWithin s.closed k then .error .malformed
  else do
    let root ← orMalformed (alter true some k s.root)
    return { s with root := root, opened := k :: s.opened, header := k }

/-- Adds a table to an array of tables and opens it. What was said of the last one is forgotten. -/
def openItem (s : State) (k : Key) : Except Error State :=
  if isWithin s.closed k then .error .malformed
  else do
    let fresh (keys : List Key) : List Key := keys.filter fun other => !k.isPrefixOf other
    let root ← orMalformed (alter true (addToArray (k.getLastD "")) k.dropLast s.root)
    return { s with root := root, opened := k :: fresh s.opened, closed := fresh s.closed, header := k }

end State

/-- Reads the header behind its opening bracket. -/
def header (s : State) (text : List Char) : Except Error (State × List Char) :=
  let s := s.settle
  let read (text : List Char) : Except Error (Key × List Char) :=
    key (text.length + 1) (skipSpace text)
  match text with
  | '[' :: rest => do
    let (k, rest) ← read rest
    let s ← s.openItem k
    match rest with
    | ']' :: ']' :: rest => return (s, rest)
    | _ => .error .malformed
  | _ => do
    let (k, rest) ← read text
    let s ← s.openTable k
    match rest with
    | ']' :: rest => return (s, rest)
    | _ => .error .malformed

/-- Reads an entry, whose value has so many levels at most. -/
def entry (levels : Nat) (s : State) (text : List Char) : Except Error (State × List Char) := do
  let (k, rest) ← key (text.length + 1) text
  match rest with
  | '=' :: rest =>
    let rest := skipSpace rest
    let (v, rest) ← value (2 * rest.length + 2) levels rest
    let s ← s.addValue k v
    return (s, rest)
  | _ => .error .malformed

/-- Reads what stands on a line before its comment. -/
def statement (levels : Nat) (s : State) (text : List Char) : Except Error (State × List Char) :=
  match text with
  | '[' :: rest => header s rest
  | '#' :: _ => .ok (s, text)
  | '\n' :: _ => .ok (s, text)
  | c :: _ => if startsKey c then entry levels s text else .error .malformed
  | [] => .ok (s, text)

/-- Reads lines; `steps` bounds their number. -/
def lines (levels : Nat) : (steps : Nat) → State → List Char → Except Error State
  | 0, _, _ => .error .malformed
  | steps + 1, s, text => do
    let (s, rest) ← statement levels s (skipSpace text)
    match ← skipComment (skipSpace rest) with
    | [] => return s
    | '\n' :: rest => lines levels steps s rest
    | _ => .error .malformed

/-- The text with each carriage return that a line feed follows left out. -/
def joinBreaks : List Char → List Char
  | '\r' :: '\n' :: rest => '\n' :: joinBreaks rest
  | c :: rest => c :: joinBreaks rest
  | [] => []

/-- The table that a document describes, whose values have so many levels at most. -/
def parse (levels : Nat) (text : List Char) : Except Error Table := do
  let text := joinBreaks text
  let s ← lines levels (text.length + 1) .start text
  return s.root

end MatlabTidy.Toml
